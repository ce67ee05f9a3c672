import Reckoner.Proofs.Calculation.Rereading
import Reckoner.Proofs.Token.Concatenation
import Reckoner.Proofs.Tree.Context

/-!
# Texts made of texts

Two expressions with an operator between them are an expression, and so is one in
parentheses. The tree of the first is a single chain: nothing in the text says where the
left expression ends, so its operands and those of the right one become neighbours. Only
parentheses keep the right one together.

This shows in the values. A sum of two expressions has the sum of their values either way.
A subtraction takes away the first operand on its right, and what follows that operand
keeps its own signs, unless there are parentheses.
-/

namespace Reckoner

namespace Progress

/-- A group that could end at some point is worked out from there on with what it has come
to. -/
theorem valueOf_append {progress : Progress} {front : List Tree} {total : Int}
    (worked : progress.valueOf front = .ok total) (later : List Tree) :
    progress.valueOf (front ++ later) = Tree.valueAfterOperand total later := by
  induction front generalizing progress with
  | nil =>
    cases progress with
    | start | afterOperator => cases worked
    | afterOperand =>
      cases worked
      rfl
  | cons child front inductionHypothesis =>
    rw [valueOf_cons] at worked
    obtain ⟨reached, past, rest⟩ := Tree.exists_of_bind_eq_ok worked
    rw [List.cons_append, valueOf_cons, past]
    exact inductionHypothesis rest

end Progress

namespace Tree

mutual

/-- What follows an operand changes the total by an amount that does not depend on it. -/
theorem valueAfterOperand_add (shift total : Int) (later : List Tree) :
    valueAfterOperand (shift + total) later =
      (valueAfterOperand total later).map fun value => shift + value := by
  match later with
  | [] => rfl
  | .node (.operator sign) _ :: more => exact valueAfterOperator_add shift total sign more
  | .node .group _ :: _ | .node (.number _) _ :: _ => rfl

/-- The same holds behind an operator, which is applied to the next operand alone. -/
theorem valueAfterOperator_add (shift total : Int) (sign : Sign) (later : List Tree) :
    valueAfterOperator (shift + total) sign later =
      (valueAfterOperator total sign later).map fun value => shift + value := by
  match later with
  | [] => rfl
  | operand :: more =>
    rw [valueAfterOperator_cons, valueAfterOperator_cons]
    cases operand.value with
    | error error => rfl
    | ok right =>
      have applied : sign.apply (shift + total) right = shift + sign.apply total right := by
        rw [sign.apply_eq, sign.apply_eq, Int.add_assoc]
      change valueAfterOperand (sign.apply (shift + total) right) more = _
      rw [applied]
      exact valueAfterOperand_add shift (sign.apply total right) more

end

/-- The operator between two chains is applied to the first operand behind it alone. -/
theorem groupValue_spliced {children later : List Tree} {lead : Tree} {total first value : Int}
    (worked : groupValue children = .ok total) (leadWorked : lead.value = .ok first)
    (laterWorked : valueAfterOperand first later = .ok value) (sign : Sign) :
    groupValue (children ++ .operator sign :: lead :: later) =
      .ok (sign.apply total first - first + value) := by
  have behind : groupValue (children ++ .operator sign :: lead :: later) =
      valueAfterOperator total sign (lead :: later) :=
    Progress.start.valueOf_append worked (.operator sign :: lead :: later)
  rw [behind, valueAfterOperator_cons, leadWorked]
  change valueAfterOperand (sign.apply total first) later = _
  -- The right chain has come to `first` here, so the left one is ahead by the difference.
  rw [← Int.sub_add_cancel (sign.apply total first) first, valueAfterOperand_add, laterWorked,
    Int.sub_add_cancel]
  rfl

mutual

/-- A chain goes on with anything that may follow an operand. -/
theorem isChain_append (front : List Tree) {later : List Tree} (chain : isChain front = true)
    (rest : isRest later = true) : isChain (front ++ later) = true := by
  match front with
  | first :: more =>
    rw [isChain, Bool.and_eq_true] at chain
    rw [List.cons_append, isChain, chain.1, isRest_append more chain.2 rest]
    rfl

/-- What follows an operand goes on with anything else that may follow one. -/
theorem isRest_append (front : List Tree) {later : List Tree} (begun : isRest front = true)
    (rest : isRest later = true) : isRest (front ++ later) = true := by
  match front with
  | [] => exact rest
  | .node .group _ :: _ | .node (.number _) _ :: _ => cases begun
  | .node (.operator sign) below :: more =>
    rw [isRest, Bool.and_eq_true] at begun
    rw [List.cons_append, isRest, begun.1, isChain_append more begun.2 rest]
    rfl

end

end Tree

/-- A text that is read as an expression: its tokens, the children of its tree and its
value. -/
structure Expresses (text : String) (tokens : List Token) (children : List Tree) (value : Int) :
    Prop where
  scanned : tokenize (bytesOf text) = .ok tokens
  chain : Tree.isChain children = true
  spelled : tokens.map Token.essence = (Tree.tokensAll children).map Token.essence
  worked : Tree.groupValue children = .ok value

/-- Every text that has a tree is read as an expression. -/
theorem exists_expresses {text : String} {tree : Tree} (parsed : Tree.ofText text = .ok tree) :
    ∃ tokens children value, tree = .node .group children ∧
      Expresses text tokens children value := by
  obtain ⟨tokens, scanned, accepted⟩ := Tree.ofText_eq_ok_iff.mp parsed
  obtain ⟨wellFormed, spelled⟩ := Grammar.spelled_of_accepted accepted
  have worked := Tree.value_of_accepted scanned accepted
  obtain ⟨children, rfl, chain⟩ := wellFormed.exists_chain
  exact ⟨tokens, children, _, rfl, scanned, chain, spelled, worked⟩

namespace Expresses

/-- A numeral alone is a chain of one operand. -/
theorem numeral {numeral : String} (isNumeral : Decimal.isNumeral numeral = true) :
    Expresses numeral [.number numeral] [.number numeral] (Decimal.read numeral) := by
  have wellFormed : (Token.number numeral).isWellFormed = true := isNumeral
  constructor
  · exact (Scan.reads_token wellFormed).tokenize
  · rfl
  · rfl
  · rw [Tree.groupValue_cons, Tree.value_number isNumeral]
    rfl

variable {text : String} {tokens : List Token} {children : List Tree} {value : Int}

/-- The text is parsed to a group of its chain. -/
theorem ofText_eq (expresses : Expresses text tokens children value) :
    Tree.ofText text = .ok (.node .group children) := by
  have wellFormed : (Tree.node .group children).WellFormed :=
    Tree.wellFormed_group.mpr expresses.chain
  have accepted := Grammar.accepted_of_spelled wellFormed expresses.spelled
  exact Tree.ofText_eq_ok_iff.mpr ⟨tokens, expresses.scanned, accepted⟩

/-- The text has the value of its chain. -/
theorem evaluate_eq (expresses : Expresses text tokens children value) :
    evaluate text = .ok value := by
  have worked : (Tree.node .group children).value = .ok value := expresses.worked
  rw [evaluate, expresses.ofText_eq]
  simp only [worked]

/-- The first operand has a value, and what follows it leads from there to that of the
whole. -/
theorem exists_lead (expresses : Expresses text tokens children value) :
    ∃ lead later first, children = lead :: later ∧ lead.value = .ok first ∧
      Tree.valueAfterOperand first later = .ok value := by
  have worked := expresses.worked
  match children with
  | [] => cases worked
  | lead :: later =>
    rw [Tree.groupValue_cons] at worked
    obtain ⟨first, leadWorked, laterWorked⟩ := Tree.exists_of_bind_eq_ok worked
    exact ⟨lead, later, first, rfl, leadWorked, laterWorked⟩

/-- An operator makes one chain of two. -/
theorem spliced (left : Expresses text tokens children value) {other : String}
    {otherTokens : List Token} {lead : Tree} {later : List Tree} {first otherValue : Int}
    (right : Expresses other otherTokens (lead :: later) otherValue)
    (leadWorked : lead.value = .ok first)
    (laterWorked : Tree.valueAfterOperand first later = .ok otherValue) (sign : Sign) :
    Expresses (text ++ sign.text ++ other) (tokens ++ .operator sign :: otherTokens)
      (children ++ .operator sign :: lead :: later)
      (sign.apply value first - first + otherValue) := by
  have rest : Tree.isRest (.operator sign :: lead :: later) = true := right.chain
  constructor
  · exact tokenize_symbol (.operator sign) (decide_eq_true rfl) nofun left.scanned right.scanned
  · exact Tree.isChain_append children left.chain rest
  · simp [Tree.tokensAll_append, Tree.tokensAll, Tree.tokens, Tree.operator, left.spelled,
      right.spelled]
  · exact Tree.groupValue_spliced left.worked leadWorked laterWorked sign

/-- Parentheses make one operand of a chain. -/
theorem enclosed (inside : Expresses text tokens children value) :
    Expresses ("(" ++ text ++ ")") (.openParen :: (tokens ++ [.closeParen]))
      [.node .group children] value := by
  have nothing : tokenize (bytesOf "") = .ok [] := by rw [bytesOf_empty, Scan.reads_nil.tokenize]
  constructor
  · have closed := tokenize_symbol .closeParen rfl (by decide) inside.scanned nothing
    rw [String.append_empty] at closed
    have opened := tokenize_behind_symbol .openParen rfl (by decide) closed
    rwa [Token.openParen, ← String.append_assoc] at opened
  · have shape : (Tree.node .group children).isOperand = true := inside.chain
    simp [Tree.isChain, Tree.isRest, shape]
  · simp [Tree.tokensAll, Tree.tokens, inside.spelled]
  · rw [Tree.groupValue_cons, Tree.value, inside.worked]
    rfl

/-- In parentheses the right one of two chains is a single operand of the left one. -/
theorem spliced_enclosed (left : Expresses text tokens children value) {other : String}
    {otherTokens : List Token} {others : List Tree} {otherValue : Int}
    (right : Expresses other otherTokens others otherValue) (sign : Sign) :
    Expresses (text ++ sign.text ++ "(" ++ other ++ ")")
      (tokens ++ .operator sign :: .openParen :: (otherTokens ++ [.closeParen]))
      (children ++ [.operator sign, .node .group others]) (sign.apply value otherValue) := by
  have operandWorked : (Tree.node .group others).value = .ok otherValue := right.worked
  have expresses := left.spliced right.enclosed operandWorked rfl sign
  rwa [Int.sub_add_cancel, ← String.append_assoc, ← String.append_assoc] at expresses

end Expresses

/-- Expressions are put together by their texts. With an operator between two of them the
children of both trees are neighbours on both sides of it, in one chain; parentheses make
one operand of the whole tree. So sums and expressions in parentheses have the values that
the parts make one expect, and a subtraction without parentheses takes away the first
operand behind it and adds the others with their own signs. -/
theorem joined_texts_compose {left right : String} {first second : Tree}
    (leftParsed : Tree.ofText left = .ok first) (rightParsed : Tree.ofText right = .ok second) :
    (∀ sign : Sign, Tree.ofText (left ++ sign.text ++ right) =
      .ok (.node .group (first.children ++ .operator sign :: second.children))) ∧
    Tree.ofText ("(" ++ left ++ ")") = .ok (.groupOf [first]) ∧
    (∀ sign : Sign, Tree.ofText (left ++ sign.text ++ "(" ++ right ++ ")") =
      .ok (.node .group (first.children ++ [.operator sign, second]))) ∧
    second.kind = .group ∧
    ∃ leftValue rightValue lead later leadValue,
      evaluate left = .ok leftValue ∧ evaluate right = .ok rightValue ∧
      second.children = lead :: later ∧ lead.value = .ok leadValue ∧
      evaluate (left ++ "+" ++ right) = .ok (leftValue + rightValue) ∧
      evaluate ("(" ++ left ++ ")") = .ok leftValue ∧
      evaluate (left ++ "+(" ++ right ++ ")") = .ok (leftValue + rightValue) ∧
      evaluate (left ++ "-(" ++ right ++ ")") = .ok (leftValue - rightValue) ∧
      evaluate (left ++ "-" ++ right) = .ok (leftValue - 2 * leadValue + rightValue) := by
  obtain ⟨tokens, children, leftValue, rfl, expresses⟩ := exists_expresses leftParsed
  obtain ⟨otherTokens, others, rightValue, rfl, otherExpresses⟩ := exists_expresses rightParsed
  obtain ⟨lead, later, leadValue, rfl, leadWorked, laterWorked⟩ := otherExpresses.exists_lead
  have chained (sign : Sign) := expresses.spliced otherExpresses leadWorked laterWorked sign
  have nested (sign : Sign) := expresses.spliced_enclosed otherExpresses sign
  refine ⟨fun sign => (chained sign).ofText_eq, expresses.enclosed.ofText_eq,
    fun sign => (nested sign).ofText_eq, rfl, leftValue, rightValue, lead, later, leadValue,
    expresses.evaluate_eq, otherExpresses.evaluate_eq, rfl, leadWorked, ?_,
    expresses.enclosed.evaluate_eq, ?_, ?_, ?_⟩
  · have sum := (chained .add).evaluate_eq
    rwa [Sign.apply, Int.add_sub_cancel] at sum
  · have opening : left ++ Sign.add.text ++ "(" = left ++ "+(" := String.append_assoc
    have sum := (nested .add).evaluate_eq
    rwa [opening] at sum
  · have opening : left ++ Sign.subtract.text ++ "(" = left ++ "-(" := String.append_assoc
    have difference := (nested .subtract).evaluate_eq
    rwa [opening] at difference
  · have difference := (chained .subtract).evaluate_eq
    rwa [Sign.apply, Int.sub_sub, ← Int.two_mul] at difference

/-- Without parentheses only the 3 is taken away and the 4 is added. -/
theorem difference_and_sum_joined :
    let left : List Tree := [.number "1", .operator .subtract, .number "2"]
    let right : List Tree := [.number "3", .operator .add, .number "04"]
    Tree.ofText "1 - 2" = .ok (.node .group left) ∧
      Tree.ofText "3 + 04" = .ok (.node .group right) ∧
      Tree.ofText ("1 - 2" ++ "-" ++ "3 + 04") =
        .ok (.node .group (left ++ .operator .subtract :: right)) ∧
      evaluate ("1 - 2" ++ "-" ++ "3 + 04") = .ok 0 ∧
      evaluate ("1 - 2" ++ "-(" ++ "3 + 04" ++ ")") = .ok (-8) := by
  intro left right
  have leftNumerals : Tree.showsNumeralsAll left = true := by decide
  have rightNumerals : Tree.showsNumeralsAll right = true := by decide
  have leftParsed : Tree.ofText "1 - 2" = .ok (.node .group left) :=
    Tree.ofText_textAll leftNumerals rfl
  have rightParsed : Tree.ofText "3 + 04" = .ok (.node .group right) :=
    Tree.ofText_textAll rightNumerals rfl
  obtain ⟨chained, _, _, _, leftValue, rightValue, lead, later, leadValue, leftWorked, rightWorked,
    isLead, leadWorked, _, _, _, enclosed, spliced⟩ := joined_texts_compose leftParsed rightParsed
  rw [evaluate, leftParsed] at leftWorked
  rw [evaluate, rightParsed] at rightWorked
  cases leftWorked
  cases rightWorked
  cases isLead
  cases leadWorked
  exact ⟨leftParsed, rightParsed, chained .subtract, spliced, enclosed⟩

end Reckoner
