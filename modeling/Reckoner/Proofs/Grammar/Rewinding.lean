import Reckoner.Proofs.Grammar.Journal

/-!
# Sending the cursor back

The rules send the cursor back when an alternative or a step has failed, and a cursor can
be sent back to tokens only. At the end of the list a rule could not even return to where
it began: the failure to send the cursor back would take the place of the failure that was
found. It does not come to that. Every rule that sends a cursor back began in front of a
token, because each call of it stands behind a check that there is one, and it sends the
cursor back to where it began.

So it makes no difference what becomes of a cursor that is sent anywhere else. A parse is
the same with every rewind that reaches the tokens, and the rejection that a rule returns
is the one that was found last.
-/

namespace Reckoner.Grammar

variable {tokens : Array Token}

/-! ## Where rules begin and where cursors are sent -/

/-- Expressions and operands are begun in front of a token, and a cursor that is sent back
has a token for its target and gets there. -/
def Event.IsWithin (size : Nat) : Event → Prop
  | .expressionBegun position _ | .operandBegun position => position < size
  | .sentBack target moved => target < size ∧ moved = true
  | .alternativeFailed _ _ _ | .chainEnded _ _ => True

/-- A run begins its rules and sends its cursors within the list.

Proof: induction on the run. Wherever a rule goes on there is a next token, and whatever
is sent back goes to where a rule began. -/
theorem Run.tells_within {around : List Nat} {rule : Rule} {reading after : Reading tokens}
    {answer : Except ParseError (List Tree)} (run : Run around rule reading answer after)
    (told : reading.Told (Event.IsWithin tokens.size)) :
    after.Told (Event.IsWithin tokens.size) := by
  induction run with
  | number next _ | stray next _ _ | openAtEnd next _ _ | noOperator next _
  | operatorAtEnd next _ _ =>
    have inside := Reading.inside_of_peek next
    simpa [Event.IsWithin, inside] using told
  | insideRejected next _ _ inductionHypothesis | unclosed next _ _ _ inductionHypothesis
  | closed next _ _ _ _ inductionHypothesis | linkRejected next _ _ inductionHypothesis =>
    have inside := Reading.inside_of_peek next
    have within := inductionHypothesis (by simpa [Event.IsWithin, inside] using told)
    simpa [Event.IsWithin, inside] using within
  | exhausted _ => exact told
  | linked _ _ _ _ linkHypothesis restHypothesis => exact restHypothesis (linkHypothesis told)
  | leadRejected lead inductionHypothesis =>
    have inside := lead.begins_inside (by decide)
    exact inductionHypothesis (Reading.told_log.mpr ⟨told, inside⟩)
  | led lead _ leadHypothesis restHypothesis =>
    have inside := lead.begins_inside (by decide)
    exact restHypothesis (leadHypothesis (Reading.told_log.mpr ⟨told, inside⟩))

/-! ## What the way of sending back changes -/

/-- Rewinds that reach all tokens make no difference to a parse. -/
theorem parseWith_eq_of_faithful {rewind other : Rewind tokens} (faithful : rewind.Faithful)
    (otherFaithful : other.Faithful) : parseWith rewind = parseWith other := by
  rcases Nat.eq_zero_or_pos tokens.size with vacant | occupied
  · rw [parseWith_of_vacant vacant, parseWith_of_vacant vacant]
  · obtain ⟨answer, after, run, concluded⟩ := parse_concludes faithful occupied
    obtain ⟨reply, last, otherRun, otherConcluded⟩ := parse_concludes otherFaithful occupied
    obtain ⟨rfl, rfl⟩ := run.functional otherRun
    rw [concluded, otherConcluded]

/-- The last thing told is that both ways to read an operand were given up, the second one
for the given rejection, and that the cursor was sent back and is at `start`. -/
structure Reading.GaveUp (start : Nat) (error : ParseError) (reading : Reading tokens) :
    Prop where
  told : ∃ (earlier : Array Event) (position : Nat), reading.journal =
    (earlier.push (.alternativeFailed .parenthesized position error)).push (.sentBack start true)
  placed : reading.pos = start

/-- The end of an operand tells its rejection last and leaves the cursor where the operand
began. -/
theorem Reading.gaveUp_noOperand (start : Nat) (error : ParseError) (reading : Reading tokens) :
    (reading.noOperand start error).GaveUp start error where
  told := ⟨reading.journal, reading.pos, by simp [noOperand, returnTo, abandon, placeAt, log]⟩
  placed := rfl

/-- A run that fails returns the rejection that was told last.

Proof: induction on the run. An operand that fails tells its second rejection and returns
it, and an expression fails with its first operand only. -/
theorem Run.gaveUp {around : List Nat} {rule : Rule} {reading after : Reading tokens}
    {answer : Except ParseError (List Tree)} (run : Run around rule reading answer after)
    {error : ParseError} (failed : answer = .error error) : after.GaveUp reading.pos error := by
  induction run with
  | stray _ _ _ | openAtEnd _ _ _ | insideRejected _ _ _ _ | unclosed _ _ _ _ _ =>
    cases failed
    exact Reading.gaveUp_noOperand _ _ _
  | leadRejected _ inductionHypothesis => exact inductionHypothesis failed
  | number _ _ | closed _ _ _ _ _ _ | exhausted _ | noOperator _ _ | operatorAtEnd _ _ _
  | linkRejected _ _ _ _ | linked _ _ _ _ _ _ | led _ _ _ _ => cases failed

/-- A rule whose outcome agrees with a run returns the rejection that was told last. -/
theorem Outcome.Agrees.gaveUp {around : List Nat} {rule : Rule} {tree : Tree}
    {reading after : Reading tokens} {bound : Nat} {outcome : Outcome tokens bound Tree}
    (agrees : outcome.Agrees tree (Run around rule reading)) {error : ParseError}
    (failed : outcome.final = (.error error, after)) : after.GaveUp reading.pos error := by
  rw [Outcome.eq_rejected failed] at agrees
  exact Run.gaveUp agrees rfl

/-- A chain does not fail: it ends in front of what cannot be read. -/
theorem Outcome.Agrees.exists_longer {around : List Nat} {tree : Tree} {reading : Reading tokens}
    {bound : Nat} {outcome : Outcome tokens bound Tree}
    (agrees : outcome.Agrees tree (Run around .chain reading)) :
    ∃ longer, outcome.final.1 = .ok longer := by
  cases outcome with
  | accepted longer _ _ => exact ⟨longer, rfl⟩
  | rejected error after =>
    have impossible : Run around .chain reading (.error error) after := agrees
    cases impossible

/-- No cursor is ever refused a way back. In the journal of a parse every expression and
every operand begins in front of a token, and every cursor that is sent back has a token
for its target and gets there. So a parse is the same if cursors are put back unchecked,
or if any other rewind takes them to tokens, whatever else it does.

On its way back a rule does not lose what it failed with either: called with input left, an
operand or an expression that fails returns the rejection that was told last, and a chain
never fails. -/
theorem rewinds_are_never_refused (tokens : Array Token) :
    (∀ event ∈ (parse tokens).journal, event.IsWithin tokens.size) ∧
    parseWith (Rewind.unchecked : Rewind tokens) = parse tokens ∧
    (∀ rewind : Rewind tokens, rewind.Faithful → parseWith rewind = parse tokens) ∧
    (∀ (around : List Nat) (tree : Tree) (reading after : Reading tokens) (error : ParseError),
      reading.pos < tokens.size →
      ((operand Rewind.checked around tree reading).final = (.error error, after) →
        after.GaveUp reading.pos error) ∧
      ((expression Rewind.checked around tree reading).final = (.error error, after) →
        after.GaveUp reading.pos error)) ∧
    ∀ (around : List Nat) (tree : Tree) (reading : Reading tokens) (bound : Nat)
      (within : reading.left < bound), ∃ longer,
        (chain Rewind.checked around tree reading bound within).final.1 = .ok longer := by
  have checked : (Rewind.checked : Rewind tokens).Faithful := Rewind.checked_faithful
  refine ⟨parse_told fun run => run.tells_within Reading.told_start, ?_, ?_, ?_, ?_⟩
  · exact parseWith_eq_of_faithful Rewind.unchecked_faithful checked
  · intro rewind faithful
    exact parseWith_eq_of_faithful faithful checked
  · intro around tree reading after error inside
    exact ⟨(operand_agrees checked around tree reading inside).gaveUp,
      (expression_agrees checked around tree reading inside).gaveUp⟩
  · intro around tree reading bound within
    exact (chain_agrees checked around tree reading bound within).exists_longer

/-- At the end of the list: the operand that is missing behind the operator is missing
there, and the cursor is sent back from there, first to the operator and then, because of
the parenthesis that is not closed, to the first token. -/
theorem sent_back_from_the_end :
    (∀ event ∈ (parse #[.openParen, .number "1", .operator .add]).journal, event.IsWithin 3) ∧
    .sentBack 2 true ∈ (parse #[.openParen, .number "1", .operator .add]).journal ∧
    .sentBack 0 true ∈ (parse #[.openParen, .number "1", .operator .add]).journal := by
  refine ⟨(rewinds_are_never_refused _).1, ?_, ?_⟩ <;> decide +kernel

end Reckoner.Grammar
