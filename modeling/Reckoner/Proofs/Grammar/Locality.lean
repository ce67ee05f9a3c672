import Reckoner.Proofs.Grammar.Run
import Reckoner.Proofs.Tree.Copies

/-!
# What a rule sees and what it leaves

A rule is called with a tree to extend and with a reading. Of the reading it sees the
cursor only, and of the tree it sees nothing: what it appends, why it fails, where it
leaves the cursor and what it tells the journal are settled by the cursor. A call that
fails leaves the cursor where it was; a call that is accepted moves it forward and keeps
the nodes that were there.

What was put aside before a call is lost only to something that reaches as far. A call
that fails has put aside a rejection that reaches as far as the one it returns.

Runs have these properties by induction. A call without input left is no run and is
opened here: nothing can be read, and the cursor cannot even be sent back to where it is.
-/

namespace Reckoner.Grammar

variable {tokens : Array Token}

/-! ## Two readings with one cursor -/

/-- From `reading` to `after`, and from `other` to `last`: the cursors end at the same
position, and the same events have been told. -/
structure Parallel (reading after other last : Reading tokens) : Prop where
  cursor : last.cursor = after.cursor
  told : ∃ events, after.journal.toList = reading.journal.toList ++ events ∧
    last.journal.toList = other.journal.toList ++ events

namespace Parallel

variable {reading behind after other between last : Reading tokens}

/-- Readings with one cursor are parallel as long as nothing has been told. -/
theorem refl (same : other.cursor = reading.cursor) : Parallel reading reading other other where
  cursor := same
  told := ⟨[], (List.append_nil _).symm, (List.append_nil _).symm⟩

/-- Parallel ways can be taken one behind the other, and so are the events that they
tell. -/
theorem trans (first : Parallel reading behind other between)
    (second : Parallel behind after between last) : Parallel reading after other last where
  cursor := second.cursor
  told := by
    obtain ⟨events, told, otherTold⟩ := first.told
    obtain ⟨more, moreTold, otherMore⟩ := second.told
    exact ⟨events ++ more, by rw [moreTold, told, List.append_assoc],
      by rw [otherMore, otherTold, List.append_assoc]⟩

/-- Parallel readings end at the same position. -/
theorem pos (parallel : Parallel reading after other last) : last.pos = after.pos :=
  congrArg Cursor.pos parallel.cursor

/-- What comes next is the same for both, as it depends on the cursor only. -/
theorem peek (parallel : Parallel reading after other last) :
    last.cursor.peek = after.cursor.peek :=
  congrArg Cursor.peek parallel.cursor

/-- The same event can be told to both. -/
theorem log (parallel : Parallel reading after other last) (event : Event) :
    Parallel reading (after.log event) other (last.log event) where
  cursor := parallel.cursor
  told := by
    obtain ⟨events, told, otherTold⟩ := parallel.told
    exact ⟨events ++ [event], by simp [Reading.log, told], by simp [Reading.log, otherTold]⟩

/-- Both can be placed at the same position. -/
theorem placeAt (parallel : Parallel reading after other last) (position : Nat) :
    Parallel reading (after.placeAt position) other (last.placeAt position) where
  cursor := rfl
  told := parallel.told

/-- The same rejection can be put aside by both. Whether it is kept may differ, but what is
put aside does not matter. -/
theorem note (parallel : Parallel reading after other last) (error : ParseError) :
    Parallel reading (after.note error) other (last.note error) where
  cursor := by rw [Reading.cursor_note, Reading.cursor_note, parallel.cursor]
  told := by
    rw [Reading.journal_note, Reading.journal_note]
    exact parallel.told

/-- Both can be sent back to the same target. -/
theorem returnTo (parallel : Parallel reading after other last) (target : Nat) :
    Parallel reading (after.returnTo target) other (last.returnTo target) :=
  (parallel.log _).placeAt target

/-- Both can go past the next token, as it is the same for both. -/
theorem past (parallel : Parallel reading after other last) :
    Parallel reading after.past other last.past := by
  rw [Reading.past, Reading.past, parallel.pos]
  exact parallel.placeAt _

/-- Either both have a token to skip or none has. -/
theorem skip (parallel : Parallel reading after other last) :
    Parallel reading after.skip other last.skip := by
  rw [Reading.skip, Reading.skip, parallel.cursor]
  split
  · exact parallel
  · exact parallel.past

/-- Both can give up an alternative. They tell the same position, as they stand at the same
one. -/
theorem abandon (parallel : Parallel reading after other last) (alternative : Alternative)
    (error : ParseError) :
    Parallel reading (after.abandon alternative error) other (last.abandon alternative error) := by
  rw [Reading.abandon, Reading.abandon, parallel.pos]
  exact (parallel.log _).note error

/-- Both can begin an operand that is no number. They stand in front of the same token, so
they blame the same one. -/
theorem noNumber (parallel : Parallel reading after other last) :
    Parallel reading after.noNumber other last.noNumber := by
  rw [Reading.noNumber, Reading.noNumber, parallel.pos]
  exact ((parallel.log _).past.abandon _ _).returnTo _

/-- Both can give up an operand with the same rejection. -/
theorem noOperand (parallel : Parallel reading after other last) (start : Nat)
    (error : ParseError) :
    Parallel reading (after.noOperand start error) other (last.noOperand start error) :=
  (parallel.abandon _ error).returnTo start

/-- Both can end a chain with the same rejection. -/
theorem endAt (parallel : Parallel reading after other last) (start : Nat) (error : ParseError) :
    Parallel reading (after.endAt start error) other (last.endAt start error) :=
  ((parallel.log _).note error).returnTo start

end Parallel

/-- The reading with something else put aside and another journal. -/
def Reading.beside (aside : Option ParseError) (journal : Array Event)
    (reading : Reading tokens) : Reading tokens := ⟨reading.cursor, aside, journal⟩

/-- A reading with something else put aside and another journal is parallel to it. -/
theorem Parallel.beside (reading : Reading tokens) (aside : Option ParseError)
    (journal : Array Event) :
    Parallel reading reading (reading.beside aside journal) (reading.beside aside journal) :=
  .refl rfl

/-- Two readings with one cursor differ in nothing but what is put aside and what has been
told. -/
theorem Reading.eq_beside {reading other : Reading tokens} (same : other.cursor = reading.cursor) :
    other = reading.beside other.furthest other.journal := by
  obtain ⟨cursor, aside, journal⟩ := other
  obtain rfl := same
  rfl

/-- Where a run goes the same way with anything put aside, it goes on from any parallel
reading. -/
theorem Parallel.follow {reading behind after other between : Reading tokens}
    {around : List Nat} {rule : Rule} {answer : Except ParseError (List Tree)}
    (parallel : Parallel reading behind other between)
    (twins : ∀ aside journal, ∃ last, Run around rule (behind.beside aside journal) answer last ∧
      Parallel behind after (behind.beside aside journal) last) :
    ∃ last, Run around rule between answer last ∧ Parallel reading after other last := by
  obtain ⟨last, twin, alike⟩ := twins between.furthest between.journal
  rw [← Reading.eq_beside parallel.cursor] at twin alike
  exact ⟨last, twin, parallel.trans alike⟩

/-- A run goes the same way with anything put aside and with any journal.

Proof: induction on the run. Each way through a rule is decided by next tokens, which
are the same ones, and the parts of the run go the same way by hypothesis. -/
theorem Run.parallel {around : List Nat} {rule : Rule} {reading after : Reading tokens}
    {answer : Except ParseError (List Tree)} (run : Run around rule reading answer after)
    (aside : Option ParseError) (journal : Array Event) :
    ∃ last, Run around rule (reading.beside aside journal) answer last ∧
      Parallel reading after (reading.beside aside journal) last := by
  induction run generalizing aside journal with
  | @number _ reading token next kind =>
    have start := Parallel.beside reading aside journal
    exact ⟨_, .number next kind, (start.log _).past⟩
  | @stray _ reading token next notNumber notOpen =>
    have start := Parallel.beside reading aside journal
    exact ⟨_, .stray next notNumber notOpen, start.noNumber.past.noOperand _ _⟩
  | @openAtEnd _ reading token next kind last =>
    have start := Parallel.beside reading aside journal
    exact ⟨_, .openAtEnd next kind last, start.noNumber.past.noOperand _ _⟩
  | @insideRejected _ reading behind token error next kind inside inductionHypothesis =>
    have start := (Parallel.beside reading aside journal).noNumber.past
    obtain ⟨last, twin, parallel⟩ := start.follow inductionHypothesis
    exact ⟨_, .insideRejected next kind twin, parallel.noOperand _ _⟩
  | @unclosed _ reading behind token forest next kind inside missing inductionHypothesis =>
    have start := (Parallel.beside reading aside journal).noNumber.past
    obtain ⟨last, twin, parallel⟩ := start.follow inductionHypothesis
    have alike := parallel.skip.noOperand reading.pos (blame tokens behind.pos)
    rw [← parallel.peek] at missing
    rw [← parallel.pos] at alike ⊢
    exact ⟨_, .unclosed next kind twin missing, alike⟩
  | @closed _ reading behind token closing forest next kind inside found closes
      inductionHypothesis =>
    have start := (Parallel.beside reading aside journal).noNumber.past
    obtain ⟨last, twin, parallel⟩ := start.follow inductionHypothesis
    exact ⟨_, .closed next kind twin (parallel.peek.trans found) closes, parallel.past⟩
  | @exhausted _ reading ended =>
    exact ⟨_, .exhausted ended, .beside reading aside journal⟩
  | @noOperator _ reading token next notSign =>
    have start := Parallel.beside reading aside journal
    exact ⟨_, .noOperator next notSign, start.past.endAt _ _⟩
  | @operatorAtEnd _ reading token sign next isSign last =>
    have start := Parallel.beside reading aside journal
    exact ⟨_, .operatorAtEnd next isSign last, start.past.endAt _ _⟩
  | @linkRejected _ reading behind token sign error next isSign link inductionHypothesis =>
    have start := (Parallel.beside reading aside journal).past
    obtain ⟨last, twin, parallel⟩ := start.follow inductionHypothesis
    exact ⟨_, .linkRejected next isSign twin, parallel.endAt _ _⟩
  | @linked _ reading behind after token sign forest later next isSign link rest linkHypothesis
      restHypothesis =>
    have start := (Parallel.beside reading aside journal).past
    obtain ⟨between, linkTwin, linkParallel⟩ := start.follow linkHypothesis
    obtain ⟨last, restTwin, parallel⟩ := linkParallel.follow restHypothesis
    exact ⟨last, .linked next isSign linkTwin restTwin, parallel⟩
  | @leadRejected enclosing reading behind error lead inductionHypothesis =>
    have start := (Parallel.beside reading aside journal).log
      (.expressionBegun reading.pos enclosing)
    obtain ⟨last, twin, parallel⟩ := start.follow inductionHypothesis
    exact ⟨last, .leadRejected twin, parallel⟩
  | @led enclosing reading behind after forest later lead rest leadHypothesis restHypothesis =>
    have start := (Parallel.beside reading aside journal).log
      (.expressionBegun reading.pos enclosing)
    obtain ⟨between, leadTwin, leadParallel⟩ := start.follow leadHypothesis
    obtain ⟨last, restTwin, parallel⟩ := leadParallel.follow restHypothesis
    exact ⟨last, .led leadTwin restTwin, parallel⟩

/-! ## What was put aside -/

namespace Reading

/-- A rejection was put aside that reaches at least to a position. -/
def HasReached (reading : Reading tokens) (position : Nat) : Prop :=
  ∃ error, reading.furthest = some error ∧ position ≤ error.reach tokens.size

/-- What has been reached stays reached when another rejection is put aside. -/
theorem HasReached.note {reading : Reading tokens} {position : Nat}
    (reached : reading.HasReached position) (error : ParseError) :
    (reading.note error).HasReached position := by
  obtain ⟨furthest, aside, far⟩ := reached
  simp only [Reading.note, aside]
  by_cases further : furthest.reach tokens.size < error.reach tokens.size
  · rw [if_pos further]
    exact ⟨error, rfl, by omega⟩
  · rw [if_neg further]
    exact ⟨furthest, aside, far⟩

/-- A rejection that is put aside has been reached, also if it is not kept. -/
theorem hasReached_note (reading : Reading tokens) (error : ParseError) :
    (reading.note error).HasReached (error.reach tokens.size) := by
  unfold note
  cases aside : reading.furthest with
  | none => exact ⟨error, rfl, Nat.le_refl _⟩
  | some furthest =>
    by_cases further : furthest.reach tokens.size < error.reach tokens.size
    · simp only [if_pos further]
      exact ⟨error, rfl, Nat.le_refl _⟩
    · simp only [if_neg further]
      exact ⟨furthest, aside, by omega⟩

section

variable {reading : Reading tokens} {position : Nat}

/-- Skipping puts nothing aside. -/
theorem HasReached.skip (reached : reading.HasReached position) :
    reading.skip.HasReached position := by
  unfold Reading.skip
  split <;> exact reached

/-- An operand that is no number puts one more rejection aside, and what has been reached
stays reached. -/
theorem HasReached.noNumber (reached : reading.HasReached position) :
    reading.noNumber.past.HasReached position := by
  have before : ((reading.log (.operandBegun reading.pos)).past.log (.alternativeFailed .number
    (reading.pos + 1) (blame tokens reading.pos))).HasReached position := reached
  exact before.note (blame tokens reading.pos)

/-- Giving up an operand keeps what has been reached. -/
theorem HasReached.noOperand (reached : reading.HasReached position) (start : Nat)
    (error : ParseError) : (reading.noOperand start error).HasReached position := by
  have before : (reading.log (.alternativeFailed .parenthesized reading.pos error)).HasReached
    position := reached
  exact before.note error

/-- Ending a chain keeps what has been reached. -/
theorem HasReached.endAt (reached : reading.HasReached position) (start : Nat)
    (error : ParseError) : (reading.endAt start error).HasReached position := by
  have before : (reading.log (.chainEnded start error)).HasReached position := reached
  exact before.note error

/-- The rejection of an operand is put aside. -/
theorem hasReached_noOperand (reading : Reading tokens) (start : Nat) (error : ParseError) :
    (reading.noOperand start error).HasReached (error.reach tokens.size) :=
  hasReached_note (reading.log (.alternativeFailed .parenthesized reading.pos error)) error

end

end Reading

/-- A run keeps what has been reached, and if it fails, it has reached as far as the
rejection it returns.

Proof: induction on the run. -/
theorem Run.reaches {around : List Nat} {rule : Rule} {reading after : Reading tokens}
    {answer : Except ParseError (List Tree)} (run : Run around rule reading answer after) :
    (∀ position, reading.HasReached position → after.HasReached position) ∧
      ∀ error, answer = .error error → after.HasReached (error.reach tokens.size) := by
  induction run with
  | number _ _ => exact ⟨fun position reached => reached, nofun⟩
  | stray _ _ _ | openAtEnd _ _ _ =>
    refine ⟨fun position reached => reached.noNumber.noOperand _ _, fun error same => ?_⟩
    cases same
    exact Reading.hasReached_noOperand _ _ _
  | insideRejected _ _ _ inductionHypothesis =>
    refine ⟨fun position reached => ?_, fun error same => ?_⟩
    · exact (inductionHypothesis.1 position reached.noNumber).noOperand _ _
    · cases same
      exact Reading.hasReached_noOperand _ _ _
  | unclosed _ _ _ _ inductionHypothesis =>
    refine ⟨fun position reached => ?_, fun error same => ?_⟩
    · exact (inductionHypothesis.1 position reached.noNumber).skip.noOperand _ _
    · cases same
      exact Reading.hasReached_noOperand _ _ _
  | closed _ _ _ _ _ inductionHypothesis =>
    exact ⟨fun position reached => inductionHypothesis.1 position reached.noNumber, nofun⟩
  | exhausted _ => exact ⟨fun position reached => reached, nofun⟩
  | @noOperator _ reading _ _ _ =>
    refine ⟨fun position reached => ?_, nofun⟩
    have past : reading.past.HasReached position := reached
    exact past.endAt _ _
  | @operatorAtEnd _ reading _ _ _ _ _ =>
    refine ⟨fun position reached => ?_, nofun⟩
    have past : reading.past.HasReached position := reached
    exact past.endAt _ _
  | linkRejected _ _ _ inductionHypothesis =>
    exact ⟨fun position reached => (inductionHypothesis.1 position reached).endAt _ _, nofun⟩
  | linked _ _ _ _ linkHypothesis restHypothesis =>
    exact ⟨fun position reached => restHypothesis.1 position (linkHypothesis.1 position reached),
      nofun⟩
  | leadRejected _ inductionHypothesis => exact inductionHypothesis
  | led _ _ leadHypothesis restHypothesis =>
    exact ⟨fun position reached => restHypothesis.1 position (leadHypothesis.1 position reached),
      nofun⟩

/-! ## Calls without input -/

namespace Reading

/-- An operand that is begun at the end of the list: it is no number, and the cursor
cannot be sent back. -/
def noInput (reading : Reading tokens) : Reading tokens :=
  ((reading.log (.operandBegun reading.pos)).abandon .number .unexpectedEndOfInput).log
    (.sentBack reading.pos false)

/-- An operand that fails for want of input keeps what has been reached. -/
theorem HasReached.noInput {reading : Reading tokens} {position : Nat}
    (reached : reading.HasReached position) : reading.noInput.HasReached position := by
  have before : ((reading.log (.operandBegun reading.pos)).log (.alternativeFailed .number
    reading.pos .unexpectedEndOfInput)).HasReached position := reached
  exact before.note .unexpectedEndOfInput

/-- An operand that fails for want of input has put aside the end of the list, which is
also what it returns. -/
theorem hasReached_noInput (reading : Reading tokens) :
    reading.noInput.HasReached (ParseError.reach tokens.size .unexpectedEndOfInput) :=
  hasReached_note ((reading.log (.operandBegun reading.pos)).log (.alternativeFailed .number
    reading.pos .unexpectedEndOfInput)) .unexpectedEndOfInput

/-- A cursor is not sent back to the end of the list or behind it. The journal tells of the
attempt, and the failure is an unexpected end. -/
theorem sendBack_refuses (reading : Reading tokens) {target : Nat}
    (outside : tokens.size ≤ target) :
    reading.sendBack Rewind.checked target =
      .refused .unexpectedEndOfInput (reading.log (.sentBack target false)) := by
  have refused : Rewind.checked.move reading.cursor target = .error (.outOfRange target) := by
    simp [Rewind.checked, Cursor.seek, Cursor.size, Nat.not_lt_of_le outside]
  unfold sendBack
  split
  · rename_i cursor found
    cases found.symm.trans refused
  · rename_i error found
    cases found.symm.trans refused
    rfl

/-- At the end of the list there is nothing to skip. -/
theorem skip_of_end {reading : Reading tokens} (ended : reading.cursor.peek = none) :
    reading.skip = reading := by
  simp [skip, (isExhausted_iff reading).mpr ended]

end Reading

/-- Without input an operand fails at the first rewind. No number is there, and the cursor
cannot be sent back to the end of the list for the second alternative. -/
theorem operand_atEnd (around : List Nat) (tree : Tree) {reading : Reading tokens}
    (ended : reading.cursor.peek = none) :
    (operand Rewind.checked around tree reading).final =
      (.error .unexpectedEndOfInput, reading.noInput) := by
  have begun : (reading.log (.operandBegun reading.pos)).cursor.peek = none := ended
  have refused : ∀ token, (reading.log (.operandBegun reading.pos)).cursor.peek = some token →
      token.literal? = none := by
    intro token found
    cases begun.symm.trans found
  have failed : number tree (reading.log (.operandBegun reading.pos)) =
      .rejected .unexpectedEndOfInput (reading.log (.operandBegun reading.pos)) := by
    simp only [number, Reading.take_refuses refused, Reading.skip_of_end begun, blame_of_end begun]
  have outside : tokens.size ≤ reading.pos := Array.getElem?_eq_none_iff.mp ended
  rw [operand, failed]
  simp only [Reading.sendBack_refuses _ outside]
  rfl

/-- Without input an expression fails with its first operand. -/
theorem expression_atEnd (enclosing : List Nat) (tree : Tree) {reading : Reading tokens}
    (ended : reading.cursor.peek = none) :
    (expression Rewind.checked enclosing tree reading).final =
      (.error .unexpectedEndOfInput,
        (reading.log (.expressionBegun reading.pos enclosing)).noInput) := by
  have begun : (reading.log (.expressionBegun reading.pos enclosing)).cursor.peek = none := ended
  have lead := operand_atEnd (reading.pos :: enclosing) tree begun
  rw [expression, Outcome.eq_rejected lead]
  rfl

/-! ## Calls -/

/-- What a call of a rule comes to, from any reading: a run, or a failure for want of
input. -/
inductive Call (around : List Nat) : Rule → Reading tokens → Except ParseError (List Tree) →
    Reading tokens → Prop where
  | ran {rule : Rule} {reading after : Reading tokens} {answer : Except ParseError (List Tree)}
      (run : Run around rule reading answer after) (notChain : rule ≠ .chain) :
      Call around rule reading answer after
  | operandAtEnd {reading : Reading tokens} (ended : reading.cursor.peek = none) :
      Call around .operand reading (.error .unexpectedEndOfInput) reading.noInput
  | expressionAtEnd {reading : Reading tokens} (ended : reading.cursor.peek = none) :
      Call around .expression reading (.error .unexpectedEndOfInput)
        (reading.log (.expressionBegun reading.pos around)).noInput

namespace Call

variable {around : List Nat} {rule : Rule} {reading after : Reading tokens}
variable {answer : Except ParseError (List Tree)}

/-- Wherever an operand is called, it comes to what a call says. -/
theorem of_operand (around : List Nat) (tree : Tree) (reading : Reading tokens) :
    ∃ answer after, Call around .operand reading answer after ∧
      (operand Rewind.checked around tree reading).final = (answer.map tree.append, after) := by
  cases next : reading.cursor.peek with
  | none => exact ⟨_, _, .operandAtEnd next, operand_atEnd around tree next⟩
  | some token =>
    obtain ⟨answer, after, run, final⟩ := (operand_agrees Rewind.checked_faithful around tree
      reading (Reading.inside_of_peek next)).exists_run
    exact ⟨answer, after, .ran run (by decide), final⟩

/-- Wherever an expression is called, it comes to what a call says. -/
theorem of_expression (around : List Nat) (tree : Tree) (reading : Reading tokens) :
    ∃ answer after, Call around .expression reading answer after ∧
      (expression Rewind.checked around tree reading).final =
        (answer.map tree.append, after) := by
  cases next : reading.cursor.peek with
  | none => exact ⟨_, _, .expressionAtEnd next, expression_atEnd around tree next⟩
  | some token =>
    obtain ⟨answer, after, run, final⟩ := (expression_agrees Rewind.checked_faithful around tree
      reading (Reading.inside_of_peek next)).exists_run
    exact ⟨answer, after, .ran run (by decide), final⟩

/-- A call comes to one thing only: a run is the only one from its reading, and the two
kinds of calls exclude each other. -/
theorem functional {reply : Except ParseError (List Tree)} {last : Reading tokens}
    (call : Call around rule reading answer after) (other : Call around rule reading reply last) :
    answer = reply ∧ after = last := by
  cases call with
  | ran run notChain =>
    have inside := run.begins_inside notChain
    cases other with
    | ran twin _ => exact run.functional twin
    | operandAtEnd ended | expressionAtEnd ended =>
      exact absurd inside (Nat.not_lt_of_le (Array.getElem?_eq_none_iff.mp ended))
  | operandAtEnd ended | expressionAtEnd ended =>
    cases other with
    | ran twin notChain =>
      have inside := twin.begins_inside notChain
      exact absurd inside (Nat.not_lt_of_le (Array.getElem?_eq_none_iff.mp ended))
    | _ => exact ⟨rfl, rfl⟩

/-- A call goes the same way from every reading with the same cursor. -/
theorem parallel (call : Call around rule reading answer after) {other : Reading tokens}
    (same : other.cursor = reading.cursor) :
    ∃ last, Call around rule other answer last ∧ Parallel reading after other last := by
  rw [Reading.eq_beside same]
  have start := Parallel.beside reading other.furthest other.journal
  cases call with
  | ran run notChain =>
    obtain ⟨last, twin, alike⟩ := run.parallel other.furthest other.journal
    exact ⟨last, .ran twin notChain, alike⟩
  | operandAtEnd ended =>
    exact ⟨_, .operandAtEnd ended, ((start.log _).abandon _ _).log _⟩
  | expressionAtEnd ended =>
    exact ⟨_, .expressionAtEnd ended, (((start.log _).log _).abandon _ _).log _⟩

/-- A call moves the cursor forward, or leaves it where it is. -/
theorem moves (call : Call around rule reading answer after) :
    match answer with
    | .ok _ => reading.pos < after.pos ∧ after.pos ≤ tokens.size
    | .error _ => after.pos = reading.pos := by
  cases call with
  | operandAtEnd _ | expressionAtEnd _ =>
    simp [Reading.noInput, Reading.pos]
  | ran run notChain =>
    obtain ⟨within, moved⟩ := run.moves (Nat.le_of_lt (run.begins_inside notChain))
    cases rule with
    | chain => exact absurd rfl notChain
    | operand | expression =>
      cases answer with
      | ok forest => exact ⟨moved, within⟩
      | error error => exact moved

/-- A call keeps what has been reached, and if it fails, it has reached as far as the
rejection it returns. -/
theorem reaches (call : Call around rule reading answer after) :
    (∀ position, reading.HasReached position → after.HasReached position) ∧
      ∀ error, answer = .error error → after.HasReached (error.reach tokens.size) := by
  cases call with
  | ran run _ => exact run.reaches
  | operandAtEnd _ =>
    refine ⟨fun position reached => reached.noInput, fun error same => ?_⟩
    cases same
    exact Reading.hasReached_noInput _
  | @expressionAtEnd reading _ =>
    refine ⟨fun position reached => ?_, fun error same => ?_⟩
    · have begun : (reading.log (.expressionBegun reading.pos around)).HasReached position := reached
      exact begun.noInput
    · cases same
      exact Reading.hasReached_noInput _

end Call

/-- The rows of a tree stay where they are when it gets more children, with their kinds and
parents. -/
theorem row_of_append (tree : Tree) (forest : List Tree) {number : Nat} {row : Tree.Slot}
    (found : tree.slots[number]? = some row) :
    ∃ kept, (tree.append forest).slots[number]? = some kept ∧ kept.kind = row.kind ∧
      kept.parent = row.parent := by
  cases number with
  | zero =>
    rw [Tree.slots_eq_cons, List.getElem?_cons_zero, Option.some.injEq] at found
    subst row
    rw [Tree.slots_append]
    exact ⟨_, List.getElem?_cons_zero, rfl, rfl⟩
  | succ number =>
    have inside : number + 1 < tree.size := by
      rw [← Tree.length_slots]
      exact (List.getElem?_eq_some_iff.mp found).1
    rw [Tree.slots_append_kept tree forest (Nat.succ_pos number) inside]
    exact ⟨row, found, rfl, rfl⟩

/-- A rule that is atomic, local, and linear in the tree that it extends. -/
structure Local (rule : ∀ (_ : Tree) (reading : Reading tokens), Outcome tokens reading.left Tree) :
    Prop where
  /-- A call that fails leaves the cursor where it was, and a rejection has been put
  aside that reaches as far as the one it returns. -/
  atomic : ∀ (tree : Tree) (reading : Reading tokens) (error : ParseError)
    (after : Reading tokens), (rule tree reading).final = (.error error, after) →
    after.pos = reading.pos ∧ after.HasReached (error.reach tokens.size)
  /-- A call that is accepted moves the cursor forward. It appends trees behind the
  root's children and keeps the nodes that were there. -/
  forward : ∀ (tree : Tree) (reading : Reading tokens) (longer : Tree) (after : Reading tokens),
    (rule tree reading).final = (.ok longer, after) →
    reading.pos < after.pos ∧ after.pos ≤ tokens.size ∧
      (∃ forest, longer = tree.append forest) ∧
      ∀ (number : Nat) (row : Tree.Slot), tree.slots[number]? = some row →
        ∃ kept, longer.slots[number]? = some kept ∧ kept.kind = row.kind ∧ kept.parent = row.parent
  /-- What has been reached stays reached. -/
  keeps : ∀ (tree : Tree) (reading : Reading tokens) (position : Nat), reading.HasReached position →
    (rule tree reading).final.2.HasReached position
  /-- A call with an empty group, from any reading at the same position, comes to the
  same: it fails alike or is accepted with the trees to append, it leaves the cursor at
  the same position, and it tells the same events. -/
  linear : ∀ (tree : Tree) (reading other : Reading tokens), other.pos = reading.pos →
    (rule tree reading).final.1 = (rule Tree.emptyGroup other).final.1.map tree.extend ∧
      Parallel reading (rule tree reading).final.2 other (rule Tree.emptyGroup other).final.2

/-- A rule is local if what it comes to is what calls of it come to.

Proof: each part is a property of calls. For the last one, a call from one reading goes
a parallel way from any other at the same position, and there is no second call from
there. -/
theorem Local.of_calls {around : List Nat} {rule : Rule}
    {apply : ∀ (_ : Tree) (reading : Reading tokens), Outcome tokens reading.left Tree}
    (calls : ∀ tree reading, ∃ answer after, Call around rule reading answer after ∧
      (apply tree reading).final = (answer.map tree.append, after)) : Local apply where
  atomic tree reading error after rejected := by
    obtain ⟨answer, last, call, final⟩ := calls tree reading
    rw [final] at rejected
    match answer with
    | .ok forest => cases rejected
    | .error error =>
      cases rejected
      exact ⟨call.moves, call.reaches.2 error rfl⟩
  forward tree reading longer after accepted := by
    obtain ⟨answer, last, call, final⟩ := calls tree reading
    rw [final] at accepted
    match answer with
    | .error error => cases accepted
    | .ok forest =>
      cases accepted
      obtain ⟨moved, within⟩ := call.moves
      exact ⟨moved, within, ⟨forest, rfl⟩, fun number row => row_of_append tree forest⟩
  keeps tree reading position reached := by
    obtain ⟨answer, last, call, final⟩ := calls tree reading
    rw [final]
    exact call.reaches.1 position reached
  linear tree reading other same := by
    obtain ⟨answer, after, call, final⟩ := calls tree reading
    obtain ⟨reply, last, otherCall, otherFinal⟩ := calls Tree.emptyGroup other
    obtain ⟨twin, twinCall, parallel⟩ := call.parallel (congrArg Cursor.mk same)
    obtain ⟨rfl, rfl⟩ := twinCall.functional otherCall
    rw [final, otherFinal]
    refine ⟨?_, parallel⟩
    cases answer with
    | error error => rfl
    | ok forest => exact congrArg Except.ok (Tree.extend_append_emptyGroup tree forest).symm

/-- The rules for operands and expressions are atomic, local and linear, from every
reading and also where no input is left. -/
theorem rules_are_local (tokens : Array Token) (around : List Nat) :
    Local (fun tree (reading : Reading tokens) => operand Rewind.checked around tree reading) ∧
      Local (fun tree (reading : Reading tokens) =>
        expression Rewind.checked around tree reading) :=
  ⟨.of_calls (Call.of_operand around), .of_calls (Call.of_expression around)⟩

end Reckoner.Grammar
