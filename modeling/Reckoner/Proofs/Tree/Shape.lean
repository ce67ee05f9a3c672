import Reckoner.Proofs.Tree.Faults

/-!
# The shape of trees with values

Working out a value goes through a tree from left to right and finds every fault
of its shape, except one: what hangs below numbers and operators is not looked at.
Where nothing does, a tree has a value only if it stands for an operand.
-/

namespace Reckoner.Tree

mutual

/-- Whether nothing hangs below numbers and operators. -/
def hasBareLeaves : Tree → Bool
  | .node .group children => haveBareLeaves children
  | .node (.number _) children | .node (.operator _) children => children.isEmpty

/-- Whether nothing hangs below the numbers and operators of several trees. -/
def haveBareLeaves : List Tree → Bool
  | [] => true
  | tree :: later => tree.hasBareLeaves && haveBareLeaves later

end

mutual

/-- Operands are among the trees with bare leaves. -/
theorem hasBareLeaves_of_isOperand (tree : Tree) (shape : tree.isOperand = true) :
    tree.hasBareLeaves = true := by
  match tree with
  | .node (.number _) _ => exact shape
  | .node (.operator _) _ => simp [isOperand] at shape
  | .node .group children => exact haveBareLeaves_of_isChain children shape

/-- The trees of a chain have bare leaves. -/
theorem haveBareLeaves_of_isChain (forest : List Tree) (shape : isChain forest = true) :
    haveBareLeaves forest = true := by
  match forest with
  | first :: later =>
    simp only [isChain, Bool.and_eq_true] at shape
    rw [haveBareLeaves, hasBareLeaves_of_isOperand first shape.1,
      haveBareLeaves_of_isRest later shape.2, Bool.and_true]

/-- What follows an operand in a chain has bare leaves. -/
theorem haveBareLeaves_of_isRest (forest : List Tree) (shape : isRest forest = true) :
    haveBareLeaves forest = true := by
  match forest with
  | [] => rfl
  | .node .group _ :: _ | .node (.number _) _ :: _ => simp [isRest] at shape
  | .node (.operator sign) below :: later =>
    simp only [isRest, Bool.and_eq_true] at shape
    rw [haveBareLeaves, hasBareLeaves, shape.1, haveBareLeaves_of_isChain later shape.2,
      Bool.and_true]

end

/-- A value that is worked out in two steps has a first step. -/
theorem exists_of_bind_eq_ok {α β : Type} {first : Except EvalError α}
    {proceed : α → Except EvalError β} {value : β} (worked : first.bind proceed = .ok value) :
    ∃ reached, first = .ok reached ∧ proceed reached = .ok value := by
  cases first with
  | ok reached => exact ⟨reached, rfl, worked⟩
  | error error => cases worked

mutual

/-- A tree that has a value and bare leaves is an operand, and its literals are
numerals.

Proof: induction along the functions that work out values. Each of them answers
for what may stand where it looks: an operand, a chain, or the rest of one. -/
theorem isOperand_of_value (tree : Tree) (bare : tree.hasBareLeaves = true) {total : Int}
    (worked : tree.value = .ok total) : tree.isOperand = true ∧ tree.showsNumerals = true := by
  match tree with
  | .node (.number literal) _ =>
    refine ⟨bare, ?_⟩
    rw [value, literalValue] at worked
    split at worked
    · rename_i numeral
      exact numeral
    · cases worked
  | .node (.operator _) _ => cases worked
  | .node .group children => exact isChain_of_groupValue children bare worked

/-- A group with bare leaves and a value has a chain of numerals in it. -/
theorem isChain_of_groupValue (forest : List Tree) (bare : haveBareLeaves forest = true)
    {total : Int} (worked : groupValue forest = .ok total) :
    isChain forest = true ∧ showsNumeralsAll forest = true := by
  match forest with
  | [] => cases worked
  | first :: later =>
    rw [haveBareLeaves, Bool.and_eq_true] at bare
    rw [groupValue_cons] at worked
    obtain ⟨left, lead, rest⟩ := exists_of_bind_eq_ok worked
    obtain ⟨leadShape, numeral⟩ := isOperand_of_value first bare.1 lead
    obtain ⟨restShape, numerals⟩ := isRest_of_valueAfterOperand left later bare.2 rest
    simp [isChain, showsNumeralsAll, leadShape, restShape, numeral, numerals]

/-- Trees with bare leaves that come to a value behind an operand may follow one. -/
theorem isRest_of_valueAfterOperand (left : Int) (forest : List Tree)
    (bare : haveBareLeaves forest = true) {total : Int}
    (worked : valueAfterOperand left forest = .ok total) :
    isRest forest = true ∧ showsNumeralsAll forest = true := by
  match forest with
  | [] => exact ⟨rfl, rfl⟩
  | .node .group _ :: _ | .node (.number _) _ :: _ => cases worked
  | .node (.operator sign) below :: later =>
    rw [haveBareLeaves, hasBareLeaves, Bool.and_eq_true] at bare
    obtain ⟨linkShape, numerals⟩ := isChain_of_valueAfterOperator left sign later bare.2 worked
    simp [isRest, showsNumeralsAll, showsNumerals, bare.1, linkShape, numerals]

/-- Trees with bare leaves that come to a value behind an operator are a chain. -/
theorem isChain_of_valueAfterOperator (left : Int) (sign : Sign) (forest : List Tree)
    (bare : haveBareLeaves forest = true) {total : Int}
    (worked : valueAfterOperator left sign forest = .ok total) :
    isChain forest = true ∧ showsNumeralsAll forest = true := by
  match forest with
  | [] => cases worked
  | operand :: later =>
    rw [haveBareLeaves, Bool.and_eq_true] at bare
    rw [valueAfterOperator_cons] at worked
    obtain ⟨right, link, rest⟩ := exists_of_bind_eq_ok worked
    obtain ⟨linkShape, numeral⟩ := isOperand_of_value operand bare.1 link
    obtain ⟨restShape, numerals⟩ :=
      isRest_of_valueAfterOperand (sign.apply left right) later bare.2 rest
    simp [isChain, showsNumeralsAll, linkShape, restShape, numeral, numerals]

end

end Reckoner.Tree
