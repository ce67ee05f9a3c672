import Reckoner.Proofs.Grammar.Run

/-!
# The grammar by ordered choice

    E  → E1 | E2
    E1 → E' Op E
    E2 → E'
    E' → number | "(" E ")"
    Op → "+" | "-"

Read literally, the grammar recurs on the right: behind an operand and an operator
the rest of the chain is an expression of its own, and its children are appended
to the tree when it is complete. Whenever the rest cannot be read, the whole first
alternative is given up, the cursor is sent back in front of the operand, and the
operand is read a second time. Every alternative that is given up is put aside as
in the rules proper.

These rules share the leaves with the rules proper, but not the chain, and they
tell the journal only where the cursor was sent back. A chain of operands makes
the calls nest, and parentheses make the number of calls double with each level,
so the rules are of use for comparison only.
-/

namespace Reckoner.Grammar

variable {tokens : Array Token}

namespace Outcome

variable {α : Type} {bound larger : Nat}

/-- The same outcome where more tokens were left before. -/
def weaken (enough : bound ≤ larger) : Outcome tokens bound α → Outcome tokens larger α
  | .accepted value after advanced => .accepted value after (Nat.lt_of_lt_of_le advanced enough)
  | .rejected error after => .rejected error after

/-- The bound is no part of what an outcome comes to. -/
@[simp] theorem final_weaken (enough : bound ≤ larger) (outcome : Outcome tokens bound α) :
    (outcome.weaken enough).final = outcome.final := by
  cases outcome <;> rfl

end Outcome

namespace OrderedChoice

/-- The first of two alternatives that accepts. If both are rejected, the cursor is
back where it was and the second rejection is the answer. -/
def firstOf (reading : Reading tokens)
    (first second : ∀ again : Reading tokens, again.pos = reading.pos →
      Outcome tokens reading.left Tree) : Outcome tokens reading.left Tree :=
  match first reading rfl with
  | .accepted tree after advanced => .accepted tree after advanced
  | .rejected error after =>
    match (after.note error).sendBack Rewind.checked reading.pos with
    | .refused error after => .rejected error after
    | .moved again placed =>
      match second again placed with
      | .accepted tree after advanced => .accepted tree after advanced
      | .rejected error after =>
        match (after.note error).sendBack Rewind.checked reading.pos with
        | .refused error after => .rejected error after
        | .moved again _ => .rejected error again

mutual

/-- `E → E1 | E2`: an operand that is continued, or else an operand alone. -/
def expression (tree : Tree) (reading : Reading tokens) : Outcome tokens reading.left Tree :=
  firstOf reading
    (fun again placed =>
      (sequence tree again).weaken (Nat.le_of_eq (Reading.left_eq_of_pos_eq placed)))
    (fun again placed =>
      (operand tree again).weaken (Nat.le_of_eq (Reading.left_eq_of_pos_eq placed)))
termination_by 4 * reading.left + 3
decreasing_by
  all_goals
    have same := Reading.left_eq_of_pos_eq placed
    omega

/-- `E1 → E' Op E`: an operand and what continues it, appended to the tree. -/
def sequence (tree : Tree) (reading : Reading tokens) : Outcome tokens reading.left Tree :=
  match operand tree reading with
  | .rejected error after => .rejected error after
  | .accepted longer after advanced => (continuation longer after).weaken (Nat.le_of_lt advanced)
termination_by 4 * reading.left + 2
decreasing_by all_goals omega

/-- `Op E`: an operator and the expression behind it, whose root's children are
appended to the tree. -/
def continuation (tree : Tree) (reading : Reading tokens) : Outcome tokens reading.left Tree :=
  if reading.cursor.isExhausted then .rejected .unexpectedEndOfInput reading
  else
    match reading.take Token.sign? with
    | .rejected error after => .rejected error after
    | .accepted sign after advanced =>
      if after.cursor.isExhausted then .rejected .unexpectedEndOfInput after
      else
        match expression Tree.emptyGroup after with
        | .rejected error behind => .rejected error behind
        | .accepted tail behind further =>
          .accepted ((tree.push (.operator sign)).extend tail) behind
            (Nat.lt_trans further advanced)
termination_by 4 * reading.left
decreasing_by omega

/-- `E' → number | "(" E ")"`: a number, or else an expression in parentheses. -/
def operand (tree : Tree) (reading : Reading tokens) : Outcome tokens reading.left Tree :=
  firstOf reading
    (fun again placed =>
      (number tree again).weaken (Nat.le_of_eq (Reading.left_eq_of_pos_eq placed)))
    (fun again placed =>
      (parenthesized tree again).weaken (Nat.le_of_eq (Reading.left_eq_of_pos_eq placed)))
termination_by 4 * reading.left + 1
decreasing_by
  have same := Reading.left_eq_of_pos_eq placed
  omega

/-- `"(" E ")"`: an expression in parentheses, appended to the tree as one group. -/
def parenthesized (tree : Tree) (reading : Reading tokens) : Outcome tokens reading.left Tree :=
  match expect .openParen reading with
  | .rejected error after => .rejected error after
  | .accepted _ opened advanced =>
    if opened.cursor.isExhausted then .rejected .unexpectedEndOfInput opened
    else
      match expression Tree.emptyGroup opened with
      | .rejected error after => .rejected error after
      | .accepted inner after further =>
        match expect .closeParen after with
        | .rejected error after => .rejected error after
        | .accepted _ closed last =>
          .accepted (tree.push inner) closed
            (Nat.lt_trans last (Nat.lt_trans further advanced))
termination_by 4 * reading.left
decreasing_by omega

end

/-- Reads all tokens as one expression. -/
def parse (tokens : Array Token) : Except ParseError Tree :=
  if tokens.isEmpty then .error .unexpectedEndOfInput
  else
    match expression Tree.emptyGroup (Reading.start tokens) with
    | .rejected error after => .error (after.report error)
    | .accepted tree after _ =>
      match after.cursor.peek with
      | none => .ok tree
      | some token => .error (after.report (.unexpectedToken token after.pos))

/-! ## Ways through the rules

One lemma for each way, with the outcome of the parts as hypotheses. They open the
rules once and for all. -/

/-- The reading back at `start`, with a rejected alternative put aside. -/
def retry (start : Nat) (error : ParseError) (reading : Reading tokens) : Reading tokens :=
  (reading.note error).returnTo start

section Alternatives

variable {reading after behind last : Reading tokens} {error failure : ParseError} {result : Tree}
variable {first second : ∀ again : Reading tokens, again.pos = reading.pos →
  Outcome tokens reading.left Tree}

/-- The first alternative wins if it accepts. -/
theorem firstOf_first (accepted : (first reading rfl).final = (.ok result, after)) :
    (firstOf reading first second).final = (.ok result, after) := by
  obtain ⟨advanced, taken⟩ := Outcome.exists_accepted accepted
  rw [firstOf, taken]
  rfl

/-- If the first alternative is rejected, the second one gets its chance. -/
theorem firstOf_second (inside : reading.pos < tokens.size)
    (rejected : (first reading rfl).final = (.error error, behind))
    (accepted : (second (retry reading.pos error behind) rfl).final = (.ok result, after)) :
    (firstOf reading first second).final = (.ok result, after) := by
  obtain ⟨placed, moved⟩ := Reading.sendBack_moves Rewind.checked_faithful (behind.note error)
    inside
  obtain ⟨advanced, taken⟩ := Outcome.exists_accepted accepted
  have taken : second ((behind.note error).returnTo reading.pos) placed =
    .accepted result after advanced := taken
  rw [firstOf, Outcome.eq_rejected rejected]
  simp only [moved, taken, Outcome.final]

/-- If both are rejected, the second rejection is the answer. -/
theorem firstOf_neither (inside : reading.pos < tokens.size)
    (rejected : (first reading rfl).final = (.error error, behind))
    (failed : (second (retry reading.pos error behind) rfl).final = (.error failure, last)) :
    (firstOf reading first second).final = (.error failure, retry reading.pos failure last) := by
  obtain ⟨placed, moved⟩ := Reading.sendBack_moves Rewind.checked_faithful (behind.note error)
    inside
  obtain ⟨home, back⟩ := Reading.sendBack_moves Rewind.checked_faithful (last.note failure)
    inside
  have refused : second ((behind.note error).returnTo reading.pos) placed =
    .rejected failure last := Outcome.eq_rejected failed
  rw [firstOf, Outcome.eq_rejected rejected]
  simp only [moved, refused, back, retry, Outcome.final]

end Alternatives

variable {reading after behind last : Reading tokens} {token : Token} {sign : Sign}
variable {tree longer result : Tree} {error failure : ParseError}

/-- A number is an operand by the first alternative. -/
theorem operand_of_number (tree : Tree) (next : reading.cursor.peek = some token)
    (kind : token.kind = .number) :
    (operand tree reading).final = (.ok (tree.append [.number token.value]), reading.past) := by
  obtain ⟨advanced, taken⟩ := number_accepts tree next kind
  rw [operand]
  apply firstOf_first
  rw [Outcome.final_weaken, taken]
  rfl

/-- The start of an operand that is no number, with that alternative put aside. -/
def noNumber (reading : Reading tokens) : Reading tokens :=
  retry reading.pos (blame tokens reading.pos) reading.past

/-- In front of another token, an operand is what the second alternative makes of it. -/
theorem operand_second (next : reading.cursor.peek = some token) (notNumber : token.kind ≠ .number)
    (accepted : (parenthesized tree (noNumber reading)).final = (.ok result, after)) :
    (operand tree reading).final = (.ok result, after) := by
  rw [operand]
  apply firstOf_second (Reading.inside_of_peek next)
  · rw [Outcome.final_weaken, number_refuses tree next notNumber]
    rfl
  · rw [Outcome.final_weaken]
    exact accepted

/-- If the second alternative fails as well, its rejection is the answer, and the cursor is
back in front of the operand. -/
theorem operand_neither (next : reading.cursor.peek = some token)
    (notNumber : token.kind ≠ .number)
    (rejected : (parenthesized tree (noNumber reading)).final = (.error error, behind)) :
    (operand tree reading).final = (.error error, retry reading.pos error behind) := by
  rw [operand]
  apply firstOf_neither (Reading.inside_of_peek next)
  · rw [Outcome.final_weaken, number_refuses tree next notNumber]
    rfl
  · rw [Outcome.final_weaken]
    exact rejected

/-- In front of a token that opens nothing, the second alternative fails and blames that
token. -/
theorem parenthesized_of_stray (tree : Tree) (next : reading.cursor.peek = some token)
    (notOpen : token.kind ≠ .openParen) :
    (parenthesized tree reading).final = (.error (blame tokens reading.pos), reading.past) := by
  have refused : ∀ other, reading.cursor.peek = some other → other.kind ≠ .openParen := by
    intro other found
    cases next.symm.trans found
    exact notOpen
  rw [parenthesized, expect_refuses refused, Reading.skip_of_peek next]
  rfl

/-- If nothing follows the opening parenthesis, the end of the list is to blame. -/
theorem parenthesized_atEnd (tree : Tree) (next : reading.cursor.peek = some token)
    (kind : token.kind = .openParen) (last : tokens.size = reading.pos + 1) :
    (parenthesized tree reading).final =
      (.error (blame tokens (reading.pos + 1)), reading.past) := by
  obtain ⟨advanced, taken⟩ := expect_accepts next kind
  have ended : reading.past.cursor.isExhausted = true := decide_eq_true (Nat.le_of_eq last)
  rw [parenthesized, taken, (Reading.last_of_exhausted (Reading.inside_of_peek next) ended).2]
  simp only [ended, if_true, Outcome.final]

/-- Behind a token that is not the last one, input is left. -/
theorem running_past (more : reading.pos + 1 < tokens.size) :
    reading.past.cursor.isExhausted = false :=
  decide_eq_false (Nat.not_le_of_lt more)

/-- What fails inside the parentheses is the answer, and the cursor stays where that
failure left it. -/
theorem parenthesized_rejected (tree : Tree) (next : reading.cursor.peek = some token)
    (kind : token.kind = .openParen) (more : reading.pos + 1 < tokens.size)
    (inner : (expression Tree.emptyGroup reading.past).final = (.error error, behind)) :
    (parenthesized tree reading).final = (.error error, behind) := by
  obtain ⟨advanced, taken⟩ := expect_accepts next kind
  rw [parenthesized, taken]
  simp only [running_past more, Bool.false_eq_true, if_false, Outcome.eq_rejected inner,
    Outcome.final]

/-- An expression that was read inside does not help if another token than the closing
parenthesis stands behind it, or none. -/
theorem parenthesized_unclosed (tree : Tree) (next : reading.cursor.peek = some token)
    (kind : token.kind = .openParen) (more : reading.pos + 1 < tokens.size)
    (inner : (expression Tree.emptyGroup reading.past).final = (.ok result, behind))
    (missing : ∀ other, behind.cursor.peek = some other → other.kind ≠ .closeParen) :
    (parenthesized tree reading).final = (.error (blame tokens behind.pos), behind.skip) := by
  obtain ⟨advanced, taken⟩ := expect_accepts next kind
  obtain ⟨further, inner⟩ := Outcome.exists_accepted inner
  rw [parenthesized, taken]
  simp only [running_past more, Bool.false_eq_true, if_false, inner,
    expect_refuses missing, Outcome.final]

/-- An expression between its parentheses is pushed as one group. -/
theorem parenthesized_closed {closing : Token} (tree : Tree)
    (next : reading.cursor.peek = some token)
    (kind : token.kind = .openParen) (more : reading.pos + 1 < tokens.size)
    (inner : (expression Tree.emptyGroup reading.past).final = (.ok result, behind))
    (found : behind.cursor.peek = some closing) (closes : closing.kind = .closeParen) :
    (parenthesized tree reading).final = (.ok (tree.push result), behind.past) := by
  obtain ⟨advanced, taken⟩ := expect_accepts next kind
  obtain ⟨further, inner⟩ := Outcome.exists_accepted inner
  obtain ⟨last, closed⟩ := expect_accepts found closes
  rw [parenthesized, taken]
  simp only [running_past more, Bool.false_eq_true, if_false, inner, closed, Outcome.final]

/-- At the end of the list nothing continues an operand. -/
theorem continuation_atEnd (tree : Tree) (ended : reading.cursor.peek = none) :
    (continuation tree reading).final = (.error .unexpectedEndOfInput, reading) := by
  rw [continuation, if_pos ((Reading.isExhausted_iff reading).mpr ended)]
  rfl

/-- In front of a token, input is left. -/
theorem running_of_peek (next : reading.cursor.peek = some token) :
    ¬ reading.cursor.isExhausted = true := by
  simp [Reading.isExhausted_iff, next]

/-- A token that is no operator continues nothing and is blamed. -/
theorem continuation_of_noOperator (tree : Tree) (next : reading.cursor.peek = some token)
    (notSign : token.sign? = none) :
    (continuation tree reading).final = (.error (blame tokens reading.pos), reading.past) := by
  have refused : ∀ other, reading.cursor.peek = some other → other.sign? = none := by
    intro other found
    cases next.symm.trans found
    exact notSign
  rw [continuation, if_neg (running_of_peek next), Reading.take_refuses refused,
    Reading.skip_of_peek next]
  rfl

/-- An operator that is the last token continues nothing, and the end behind it is
blamed. -/
theorem continuation_operatorAtEnd (tree : Tree) (next : reading.cursor.peek = some token)
    (isSign : token.sign? = some sign) (last : tokens.size = reading.pos + 1) :
    (continuation tree reading).final =
      (.error (blame tokens (reading.pos + 1)), reading.past) := by
  obtain ⟨advanced, taken⟩ := Reading.take_accepts next isSign
  have ended : reading.past.cursor.isExhausted = true := decide_eq_true (Nat.le_of_eq last)
  rw [continuation, if_neg (running_of_peek next), taken,
    (Reading.last_of_exhausted (Reading.inside_of_peek next) ended).2]
  simp only [ended, if_true, Outcome.final]

/-- An operator continues nothing if no expression can be read behind it. The failure of
that expression is the answer. -/
theorem continuation_rejected (tree : Tree) (next : reading.cursor.peek = some token)
    (isSign : token.sign? = some sign) (more : reading.pos + 1 < tokens.size)
    (tail : (expression Tree.emptyGroup reading.past).final = (.error error, behind)) :
    (continuation tree reading).final = (.error error, behind) := by
  obtain ⟨advanced, taken⟩ := Reading.take_accepts next isSign
  rw [continuation, if_neg (running_of_peek next), taken]
  simp only [running_past more, Bool.false_eq_true, if_false, Outcome.eq_rejected tail,
    Outcome.final]

/-- An operator and the expression behind it continue an operand: the tree gets the
operator and then the children of the expression's root. -/
theorem continuation_accepted (tree : Tree) {forest : List Tree}
    (next : reading.cursor.peek = some token)
    (isSign : token.sign? = some sign) (more : reading.pos + 1 < tokens.size)
    (tail : (expression Tree.emptyGroup reading.past).final =
      (.ok (Tree.emptyGroup.append forest), behind)) :
    (continuation tree reading).final = (.ok (tree.append (.operator sign :: forest)), behind) := by
  obtain ⟨advanced, taken⟩ := Reading.take_accepts next isSign
  obtain ⟨further, tail⟩ := Outcome.exists_accepted tail
  rw [continuation, if_neg (running_of_peek next), taken]
  simp only [running_past more, Bool.false_eq_true, if_false, tail,
    Tree.extend_append_emptyGroup, Tree.push_eq_append, Tree.append_append, List.singleton_append,
    Outcome.final]

/-- Behind an operand, the first alternative of an expression is decided by what continues
it. -/
theorem sequence_of_accepted
    (lead : (operand tree reading).final = (.ok longer, behind)) :
    (sequence tree reading).final = (continuation longer behind).final := by
  obtain ⟨advanced, lead⟩ := Outcome.exists_accepted lead
  rw [sequence, lead]
  exact Outcome.final_weaken _ _

/-- Without an operand the first alternative fails as the operand does. -/
theorem sequence_of_rejected
    (lead : (operand tree reading).final = (.error error, behind)) :
    (sequence tree reading).final = (.error error, behind) := by
  rw [sequence, Outcome.eq_rejected lead]
  rfl

/-- An operand that is continued is an expression by the first alternative. -/
theorem expression_first
    (lead : (operand tree reading).final = (.ok longer, behind))
    (rest : (continuation longer behind).final = (.ok result, after)) :
    (expression tree reading).final = (.ok result, after) := by
  rw [expression]
  apply firstOf_first
  rw [Outcome.final_weaken, sequence_of_accepted lead, rest]

/-- An operand that nothing continues is read a second time. -/
theorem expression_second (inside : reading.pos < tokens.size)
    (lead : (operand tree reading).final = (.ok longer, behind))
    (rest : (continuation longer behind).final = (.error error, last))
    (again : (operand tree (retry reading.pos error last)).final = (.ok result, after)) :
    (expression tree reading).final = (.ok result, after) := by
  rw [expression]
  apply firstOf_second inside
  · rw [Outcome.final_weaken, sequence_of_accepted lead, rest]
  · rw [Outcome.final_weaken]
    exact again

/-- Where no operand starts, both alternatives fail at it. -/
theorem expression_neither (inside : reading.pos < tokens.size)
    (lead : (operand tree reading).final = (.error error, behind))
    (again : (operand tree (retry reading.pos error behind)).final = (.error failure, last)) :
    (expression tree reading).final = (.error failure, retry reading.pos failure last) := by
  rw [expression]
  apply firstOf_neither inside
  · rw [Outcome.final_weaken, sequence_of_rejected lead]
  · rw [Outcome.final_weaken]
    exact again

end OrderedChoice

end Reckoner.Grammar
