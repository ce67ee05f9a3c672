import Reckoner.Proofs.Tree.Faults

/-!
# Values in one pass

The tokens of a tree are its nodes in preorder, without those below numbers and
operators, and each group has a closing parenthesis at its end. A survey goes
through them once, from left to right. Of every group that is open it knows how
far it has come: whether nothing, an operand or an operator was read last. This
and the next token decide whether that token fits, so an operand where an operator
is due is refused before anything inside it is looked at.

A tree has a value exactly if all its tokens fit, and this is what the survey comes
to. Otherwise the first token that does not fit says what is wrong.
-/

namespace Reckoner

/-- How far a group has been read. The total is the value of what was read before
an operator that still waits for its operand. -/
inductive Progress where
  | start
  | afterOperand (total : Int)
  | afterOperator (total : Int) (sign : Sign)
deriving DecidableEq, Repr

namespace Progress

/-- What is wrong with a token that does not fit. A closing parenthesis is the end of
the group. -/
def misfit? (progress : Progress) (token : Token) : Option EvalError :=
  match progress, token.kind with
  | .afterOperand _, .number | .afterOperand _, .openParen => some .missingOperator
  | .afterOperand _, .operator _ | .afterOperand _, .closeParen => none
  | _, .number =>
    if Decimal.isNumeral token.value then none else some (.invalidNumber token.value)
  | _, .openParen => none
  | _, .operator _ => some .unexpectedOperator
  | .start, .closeParen => some .emptyExpression
  | .afterOperator _ _, .closeParen => some .danglingOperator

/-- What the group has come to. -/
def total : Progress → Int
  | .start => 0
  | .afterOperand total | .afterOperator total _ => total

/-- Takes the value of an operand. -/
def take (operand : Int) : Progress → Progress
  | .start | .afterOperand _ => .afterOperand operand
  | .afterOperator total sign => .afterOperand (sign.apply total operand)

/-- Whether an operand fits. -/
def awaitsOperand : Progress → Bool
  | .afterOperand _ => false
  | .start | .afterOperator _ _ => true

/-- For the operand that is due it does not matter whether it is the first. -/
theorem misfit?_of_awaitsOperand {progress : Progress} (due : progress.awaitsOperand = true)
    {token : Token} (inside : token.kind ≠ .closeParen) :
    progress.misfit? token = start.misfit? token := by
  cases progress with
  | start => rfl
  | afterOperand total => cases due
  | afterOperator total sign =>
    cases kind : token.kind with
    | closeParen => exact absurd kind inside
    | number | operator | openParen => simp only [misfit?, kind]

end Progress

/-- The state of a pass: how far the innermost open group has been read, and how far
the groups around it have. -/
structure Survey where
  current : Progress
  enclosing : List Progress
deriving DecidableEq, Repr

namespace Survey

open Reckoner.Tree

/-- Nothing has been read. The place of the whole tree is read like a group that has
one operand. -/
def start : Survey := ⟨.start, []⟩

/-- Takes the value of an operand in the innermost open group. -/
def take (survey : Survey) (operand : Int) : Survey :=
  ⟨survey.current.take operand, survey.enclosing⟩

/-- Goes past a token that fits. A group that ends is an operand of the one around
it. -/
def past (survey : Survey) (token : Token) : Survey :=
  match token.kind, survey.enclosing with
  | .number, _ => survey.take (Decimal.read token.value)
  | .operator sign, enclosing => ⟨.afterOperator survey.current.total sign, enclosing⟩
  | .openParen, enclosing => ⟨.start, survey.current :: enclosing⟩
  | .closeParen, outer :: others => (⟨outer, others⟩ : Survey).take survey.current.total
  | .closeParen, [] => survey

/-- Reads tokens up to the first one that does not fit. -/
def run (survey : Survey) : List Token → Except EvalError Survey
  | [] => .ok survey
  | token :: later =>
    match survey.current.misfit? token with
    | some error => .error error
    | none => (survey.past token).run later

/-- A survey ends at a token that does not fit, with what is wrong with it. -/
theorem run_misfit {survey : Survey} {token : Token} {error : EvalError}
    (misfit : survey.current.misfit? token = some error) (later : List Token) :
    survey.run (token :: later) = .error error := by
  rw [run, misfit]

/-- A survey goes past a token that fits. -/
theorem run_fit {survey : Survey} {token : Token}
    (fits : survey.current.misfit? token = none) (later : List Token) :
    survey.run (token :: later) = (survey.past token).run later := by
  rw [run, fits]

/-- A survey goes on with what follows the tokens that it got through. -/
theorem run_append (survey : Survey) (front later : List Token) :
    survey.run (front ++ later) = (survey.run front).bind fun reached => reached.run later := by
  induction front generalizing survey with
  | nil => rfl
  | cons token front inductionHypothesis =>
    rw [List.cons_append]
    cases fit : survey.current.misfit? token with
    | some error =>
      rw [run_misfit fit, run_misfit fit]
      rfl
    | none => rw [run_fit fit, run_fit fit, inductionHypothesis]

/-- A pass that fails has come to a token that does not fit. -/
theorem exists_misfit {survey : Survey} {list : List Token} {error : EvalError}
    (failed : survey.run list = .error error) :
    ∃ front token later reached, list = front ++ token :: later ∧
      survey.run front = .ok reached ∧ reached.current.misfit? token = some error := by
  induction list generalizing survey with
  | nil => cases failed
  | cons first rest inductionHypothesis =>
    cases fit : survey.current.misfit? first with
    | some found =>
      rw [run_misfit fit] at failed
      cases failed
      exact ⟨[], first, rest, survey, rfl, rfl, fit⟩
    | none =>
      rw [run_fit fit] at failed
      obtain ⟨front, token, later, reached, rfl, passed, misfit⟩ := inductionHypothesis failed
      exact ⟨first :: front, token, later, reached, rfl, (run_fit fit front).trans passed, misfit⟩

/-- A pass fails at the first token that does not fit, whatever follows. -/
theorem run_eq_error_iff (survey : Survey) (list : List Token) (error : EvalError) :
    survey.run list = .error error ↔ ∃ front token later reached,
      list = front ++ token :: later ∧ survey.run front = .ok reached ∧
      reached.current.misfit? token = some error := by
  constructor
  · exact exists_misfit
  · rintro ⟨front, token, later, reached, rfl, passed, misfit⟩
    rw [run_append, passed]
    exact run_misfit misfit later

mutual

/-- Where an operand is due, the tokens of a tree come to its value or to the error
for which it has none.

Proof: induction along the functions that work out values. Each of them is taken with
the tokens that it still has to go through, up to the parenthesis that closes its
group, in whatever groups this one stands. -/
theorem run_tokens (tree : Tree) {survey : Survey}
    (due : survey.current.awaitsOperand = true) (later : List Token) :
    survey.run (tree.tokens ++ later) =
      tree.value.bind fun operand => (survey.take operand).run later := by
  obtain ⟨current, enclosing⟩ := survey
  match tree with
  | .node (.number literal) _ =>
    have checked : current.misfit? (.number literal) =
        if Decimal.isNumeral literal then none else some (.invalidNumber literal) :=
      Progress.misfit?_of_awaitsOperand due nofun
    rw [value, literalValue]
    by_cases numeral : Decimal.isNumeral literal = true
    · rw [if_pos numeral] at checked ⊢
      exact run_fit checked later
    · rw [if_neg numeral] at checked ⊢
      exact run_misfit checked later
  | .node (.operator sign) _ =>
    have refused : current.misfit? (.operator sign) = some .unexpectedOperator :=
      Progress.misfit?_of_awaitsOperand due nofun
    exact run_misfit refused later
  | .node .group children =>
    have opens : current.misfit? .openParen = none :=
      Progress.misfit?_of_awaitsOperand due nofun
    rw [tokens, List.cons_append, List.append_assoc, run_fit opens]
    exact run_group children current enclosing later

/-- Behind an opening parenthesis, the tokens of a group and its closing parenthesis come
to the value of the group, which is an operand of the group around it. -/
theorem run_group (children : List Tree) (outer : Progress) (others : List Progress)
    (later : List Token) :
    (⟨.start, outer :: others⟩ : Survey).run (tokensAll children ++ (.closeParen :: later)) =
      (groupValue children).bind fun operand =>
        ((⟨outer, others⟩ : Survey).take operand).run later := by
  match children with
  | [] => rfl
  | first :: more =>
    rw [tokensAll, List.append_assoc, run_tokens first rfl, groupValue_cons]
    cases first.value with
    | error error => rfl
    | ok total => exact run_afterOperand total more outer others later

/-- Behind an operand, the tokens that the group still has come to what the total and the
other children come to. -/
theorem run_afterOperand (total : Int) (children : List Tree) (outer : Progress)
    (others : List Progress) (later : List Token) :
    (⟨.afterOperand total, outer :: others⟩ : Survey).run
        (tokensAll children ++ (.closeParen :: later)) =
      (valueAfterOperand total children).bind fun operand =>
        ((⟨outer, others⟩ : Survey).take operand).run later := by
  match children with
  | [] => rfl
  | .node (.number _) _ :: _ | .node .group _ :: _ => rfl
  | .node (.operator sign) _ :: more => exact run_afterOperator total sign more outer others later

/-- Behind an operator, the same holds, and the operator waits for the next child. -/
theorem run_afterOperator (total : Int) (sign : Sign) (children : List Tree)
    (outer : Progress) (others : List Progress) (later : List Token) :
    (⟨.afterOperator total sign, outer :: others⟩ : Survey).run
        (tokensAll children ++ (.closeParen :: later)) =
      (valueAfterOperator total sign children).bind fun operand =>
        ((⟨outer, others⟩ : Survey).take operand).run later := by
  match children with
  | [] => rfl
  | operand :: more =>
    rw [tokensAll, List.append_assoc, run_tokens operand rfl, valueAfterOperator_cons]
    cases operand.value with
    | error error => rfl
    | ok right => exact run_afterOperand (sign.apply total right) more outer others later

end

/-- A survey of a whole tree comes to its value or fails with its error. The place of the
tree is read like a group that has one operand. -/
theorem run_start (tree : Tree) :
    start.run tree.tokens = tree.value.map fun total => ⟨.afterOperand total, []⟩ := by
  have whole : start.run (tree.tokens ++ []) = _ := run_tokens tree rfl []
  rw [List.append_nil] at whole
  rw [whole]
  cases tree.value <;> rfl

end Survey

open Survey in
/-- The value of a tree can be told from its tokens, one after the other. An operator
has none, whatever hangs below it. A number has that of its literal, if this is a
numeral. In general a tree fails with the error of the first token that does not fit,
and it has a value exactly if there is no such token: the one that the survey comes
to. -/
theorem Tree.value_follows_survey :
    (∀ sign below, (node (.operator sign) below).value = .error .unexpectedOperator) ∧
    (∀ literal below, (node (.number literal) below).value =
      if Decimal.isNumeral literal then .ok (Decimal.read literal : Int)
      else .error (.invalidNumber literal)) ∧
    (∀ (tree : Tree) (error : EvalError), tree.value = .error error ↔
      ∃ front token later reached, tree.tokens = front ++ token :: later ∧
        start.run front = .ok reached ∧ reached.current.misfit? token = some error) ∧
    ∀ (tree : Tree) (total : Int), tree.value = .ok total ↔
      start.run tree.tokens = .ok ⟨.afterOperand total, []⟩ := by
  refine ⟨?_, ?_, ?_, ?_⟩
  · intro sign below
    rw [value]
  · intro literal below
    rw [value, literalValue]
  · intro tree error
    rw [← run_eq_error_iff, run_start]
    cases tree.value <;> simp [Except.map]
  · intro tree total
    rw [run_start]
    cases tree.value <;> simp [Except.map]

/-- The empty group stands where an operator is due, and that it is empty is not looked
at. -/
example : (Tree.node .group [.number "1", .emptyGroup, .number "x"]).value =
    .error .missingOperator := rfl

end Reckoner
