import Reckoner.Proofs.Grammar.Run

/-!
# What a journal tells

A journal only grows, so what holds of all its events can be checked where each of them is
told. The lemmas here say which events the steps of a run tell. An invariant of the events
of a parse is then proved by induction on runs, with one condition for each event.
-/

namespace Reckoner.Grammar

variable {tokens : Array Token}

/-- Every event in the journal has the property. -/
def Reading.Told (property : Event → Prop) (reading : Reading tokens) : Prop :=
  ∀ event ∈ reading.journal, property event

namespace Reading

variable {property : Event → Prop} {reading : Reading tokens}

/-- In a journal in which nothing has been told every event has the property. -/
@[simp] theorem told_start : (start tokens).Told property := fun _ member =>
  absurd member (Array.not_mem_empty _)

/-- An event that is told has to have the property, and so have those before it. -/
@[simp] theorem told_log {event : Event} :
    (reading.log event).Told property ↔ reading.Told property ∧ property event := by
  simp only [Told, log, Array.mem_push]
  constructor
  · intro told
    exact ⟨fun other member => told other (.inl member), told event (.inr rfl)⟩
  · rintro ⟨told, last⟩ other (member | rfl)
    · exact told other member
    · exact last

/-- Putting a rejection aside tells nothing. -/
@[simp] theorem told_note {error : ParseError} :
    (reading.note error).Told property ↔ reading.Told property := by
  rw [Told, journal_note, Told]

/-- Moving the cursor tells nothing. -/
@[simp] theorem told_placeAt {position : Nat} :
    (reading.placeAt position).Told property ↔ reading.Told property := .rfl

/-- Going past a token tells nothing. -/
@[simp] theorem told_past : reading.past.Told property ↔ reading.Told property := .rfl

/-- Skipping tells nothing, whether or not there is a token to skip. -/
@[simp] theorem told_skip : reading.skip.Told property ↔ reading.Told property := by
  unfold skip
  split <;> rfl

/-- Before the second alternative of an operand three events are told: the operand begins,
it is no number, and the cursor is back in front of it. -/
@[simp] theorem told_noNumber : reading.noNumber.Told property ↔
    reading.Told property ∧ property (.operandBegun reading.pos) ∧
      property (.alternativeFailed .number (reading.pos + 1) (blame tokens reading.pos)) ∧
      property (.sentBack reading.pos true) := by
  simp [noNumber, returnTo, abandon, and_assoc]

/-- An operand that is given up tells that the second alternative failed, and that the
cursor is back in front of it. -/
@[simp] theorem told_noOperand {start : Nat} {error : ParseError} :
    (reading.noOperand start error).Told property ↔
      reading.Told property ∧ property (.alternativeFailed .parenthesized reading.pos error) ∧
        property (.sentBack start true) := by
  simp [noOperand, returnTo, abandon, and_assoc]

/-- A chain that ends tells so, and that the cursor is back in front of the step that
failed. -/
@[simp] theorem told_endAt {start : Nat} {error : ParseError} :
    (reading.endAt start error).Told property ↔
      reading.Told property ∧ property (.chainEnded start error) ∧
        property (.sentBack start true) := by
  simp [endAt, returnTo, endChain, and_assoc]

end Reading

/-- An empty list is rejected before any rule begins. -/
theorem parseWith_of_vacant {rewind : Rewind tokens} (vacant : tokens.size = 0) :
    parseWith rewind = ⟨.error .unexpectedEndOfInput, #[]⟩ :=
  if_pos (Array.isEmpty_iff_size_eq_zero.mpr vacant)

/-- What every run from the start tells holds of the events of a parse. -/
theorem parse_told {property : Event → Prop}
    (told : ∀ {answer after}, Run [] .expression (Reading.start tokens) answer after →
      after.Told property) :
    ∀ event ∈ (parse tokens).journal, property event := by
  rcases Nat.eq_zero_or_pos tokens.size with vacant | occupied
  · rw [parse, parseWith_of_vacant vacant]
    exact fun event member => absurd member (Array.not_mem_empty event)
  · have faithful : (Rewind.checked : Rewind tokens).Faithful := Rewind.checked_faithful
    obtain ⟨answer, after, run, concluded⟩ := parse_concludes faithful occupied
    rw [parse, concluded, journal_conclude]
    exact told run

end Reckoner.Grammar
