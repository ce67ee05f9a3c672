import Reckoner.Proofs.Tree.Construction
import Reckoner.Proofs.Tree.Survey

/-!
# Values in surroundings

A group does not look into its children. It sees the sign of an operator, and of an
operand the value or the error that it has; this is the child's appearance. The appearance
of a node is made of those of its children by its kind, and children that a number or an
operator ignores are ignored here as well.

So a tree with one place left open turns what is put there into a result in a way that is
fixed by the tree around it. Operands with the same value or the same error can be put in
each other's place, however deep it is and whatever else is wrong with the tree.
-/

namespace Reckoner

namespace Tree

/-- What a group sees of a child. -/
inductive Appearance where
  | operator (sign : Sign)
  | operand (result : Except EvalError Int)

/-- How a tree appears in a group. -/
def appearance : Tree → Appearance
  | .node (.operator sign) _ => .operator sign
  | .node .group children => .operand (groupValue children)
  | .node (.number literal) _ => .operand (literalValue literal)

/-- What it comes to on its own. -/
def Appearance.result : Appearance → Except EvalError Int
  | .operator _ => .error .unexpectedOperator
  | .operand result => result

/-- What a tree comes to can be told from how it appears. -/
theorem result_appearance (tree : Tree) : tree.appearance.result = tree.value := by
  obtain ⟨kind, children⟩ := tree
  cases kind <;> rw [value] <;> rfl

/-- Trees other than operators appear as what they come to. -/
theorem appearance_of_operand {tree : Tree} (isOperand : ∀ sign, tree.kind ≠ .operator sign) :
    tree.appearance = .operand tree.value := by
  obtain ⟨kind, children⟩ := tree
  cases kind with
  | group | number => rw [value, appearance]
  | operator sign => exact absurd rfl (isOperand sign)

end Tree

namespace Progress

open Reckoner.Tree (Appearance)

/-- Goes past a child, if it fits. -/
def step (progress : Progress) : Appearance → Except EvalError Progress
  | .operator sign =>
    if progress.awaitsOperand then .error .unexpectedOperator
    else .ok (.afterOperator progress.total sign)
  | .operand result =>
    if progress.awaitsOperand then result.map progress.take else .error .missingOperator

/-- What a group comes to that ends here. -/
def close : Progress → Except EvalError Int
  | .start => .error .emptyExpression
  | .afterOperand total => .ok total
  | .afterOperator _ _ => .error .danglingOperator

/-- What a group comes to that has got so far and still has the given children. -/
def valueOf : Progress → List Tree → Except EvalError Int
  | .start, children => Tree.groupValue children
  | .afterOperand total, children => Tree.valueAfterOperand total children
  | .afterOperator total sign, children => Tree.valueAfterOperator total sign children

/-- A group goes past its first child and then past the others. -/
theorem valueOf_cons (progress : Progress) (child : Tree) (later : List Tree) :
    progress.valueOf (child :: later) =
      (progress.step child.appearance).bind fun reached => reached.valueOf later := by
  cases progress with
  | afterOperand total =>
    obtain ⟨kind, children⟩ := child
    cases kind <;> rfl
  | start =>
    rw [valueOf, Tree.groupValue_cons, ← Tree.result_appearance]
    cases child.appearance with
    | operator sign => rfl
    | operand result => cases result <;> rfl
  | afterOperator total sign =>
    rw [valueOf, Tree.valueAfterOperator_cons, ← Tree.result_appearance]
    cases child.appearance with
    | operator sign => rfl
    | operand result => cases result <;> rfl

/-- A group takes its children from left to right and sees no more than their
appearances. -/
theorem valueOf_eq_foldlM (progress : Progress) (children : List Tree) :
    progress.valueOf children =
      ((children.map Tree.appearance).foldlM step progress).bind close := by
  induction children generalizing progress with
  | nil => cases progress <;> rfl
  | cons child later inductionHypothesis =>
    rw [valueOf_cons, List.map_cons, List.foldlM_cons]
    cases progress.step child.appearance with
    | error error => rfl
    | ok reached => exact inductionHypothesis reached

end Progress

namespace Tree

/-- How a node of some kind appears whose children have the given appearances. -/
def Kind.appearance (children : List Appearance) : Kind → Appearance
  | .operator sign => .operator sign
  | .number literal => .operand (literalValue literal)
  | .group => .operand ((children.foldlM Progress.step .start).bind Progress.close)

/-- A node appears by its kind and by how its children appear. -/
theorem appearance_node (kind : Kind) (children : List Tree) :
    (node kind children).appearance = kind.appearance (children.map appearance) := by
  cases kind with
  | operator | number => rfl
  | group =>
    rw [appearance, Kind.appearance]
    exact congrArg Appearance.operand (Progress.start.valueOf_eq_foldlM children)

/-! ## Trees with an open place -/

/-- A tree in which the place of one subtree is open: the whole tree, or a place in one of
the children of a node. -/
inductive Context where
  | hole
  | inside (kind : Kind) (before : List Tree) (inner : Context) (after : List Tree)

namespace Context

/-- Puts a tree in the open place. -/
def fill : Context → Tree → Tree
  | .hole, tree => tree
  | .inside kind before inner after, tree => .node kind (before ++ inner.fill tree :: after)

/-- How the tree around an open place appears, by the appearance of what is put there. -/
def respond : Context → Appearance → Appearance
  | .hole, part => part
  | .inside kind before inner after, part =>
    kind.appearance (before.map Tree.appearance ++ inner.respond part :: after.map Tree.appearance)

/-- Nothing else of what is put in the open place matters. -/
theorem appearance_fill (context : Context) (tree : Tree) :
    (context.fill tree).appearance = context.respond tree.appearance := by
  induction context with
  | hole => rfl
  | inside kind before inner after inductionHypothesis =>
    rw [fill, appearance_node, List.map_append, List.map_cons, inductionHypothesis, respond]

/-- The result of the tree around an operand is told by the result of the operand. -/
theorem value_fill (context : Context) {operand : Tree}
    (isOperand : ∀ sign, operand.kind ≠ .operator sign) :
    (context.fill operand).value = (context.respond (.operand operand.value)).result := by
  rw [← result_appearance, appearance_fill, appearance_of_operand isOperand]

end Context

mutual

/-- Every row of a placed tree is the open place of a tree around it.

Proof: induction along the rows. A row behind the root's is one of the rows of a single
child; the children in front of it and behind it stay around the place. -/
theorem Placed.exists_context {table : List Slot} {above : Option Nat} {first number : Nat}
    {tree : Tree} (placed : Placed table above first tree) (fromFirst : first ≤ number)
    (inside : number < first + tree.size) :
    ∃ (context : Context) (part : Tree) (beyond : Option Nat),
      Placed table beyond number part ∧ context.fill part = tree := by
  obtain ⟨kind, children⟩ := tree
  rcases Nat.eq_or_lt_of_le fromFirst with rfl | behind
  · exact ⟨.hole, .node kind children, above, placed, rfl⟩
  · rw [size, ← Nat.add_assoc] at inside
    obtain ⟨before, inner, after, part, beyond, found, rfl⟩ :=
      placed.below.exists_context behind inside
    exact ⟨.inside kind before inner after, part, beyond, found, rfl⟩

/-- Every row of placed siblings is the open place of a tree around it, in one of them. -/
theorem PlacedAll.exists_context {table : List Slot} {owner first number : Nat}
    {trees : List Tree} (placed : PlacedAll table owner first trees) (fromFirst : first ≤ number)
    (inside : number < first + sizeAll trees) :
    ∃ (before : List Tree) (inner : Context) (after : List Tree) (part : Tree)
      (beyond : Option Nat), Placed table beyond number part ∧
        trees = before ++ inner.fill part :: after := by
  match trees with
  | [] =>
    rw [sizeAll] at inside
    omega
  | tree :: later =>
    obtain ⟨here, further⟩ := placedAll_cons_iff.mp placed
    rw [sizeAll, ← Nat.add_assoc] at inside
    rcases Nat.lt_or_ge number (first + tree.size) with within | behind
    · obtain ⟨context, part, beyond, found, rfl⟩ := here.exists_context fromFirst within
      exact ⟨[], context, later, part, beyond, found, rfl⟩
    · obtain ⟨before, inner, after, part, beyond, found, rfl⟩ :=
        further.exists_context behind inside
      exact ⟨tree :: before, inner, after, part, beyond, found, rfl⟩

end

/-- The value of a number is that of its numeral. -/
theorem value_number {numeral : String} (isNumeral : Decimal.isNumeral numeral = true) :
    (Tree.number numeral).value = .ok (Decimal.read numeral : Int) := by
  change literalValue numeral = _
  rw [literalValue, if_pos isNumeral]

/-- A number that is written down has the value of its literal. -/
theorem value_number_write {number : Int} (natural : 0 ≤ number) :
    (Tree.number (Decimal.write number)).value = .ok number := by
  obtain ⟨count, rfl⟩ := Int.eq_ofNat_of_zero_le natural
  change (Tree.number (Decimal.writeNat count)).value = .ok (count : Int)
  rw [value_number (Decimal.isNumeral_writeNat count), Decimal.read_writeNat]

/-- Operands that have the same value or the same error can be put in each other's place
in any tree: the result of the whole tree stays the same, be it a value or an error. So
the tree around an open place turns results into results; a group with a natural value can
be replaced by the number that it comes to. Every node of a tree stands in such a place. -/
theorem value_fill_eq_of_value_eq :
    (∀ (context : Context) (first second : Tree), (∀ sign, first.kind ≠ .operator sign) →
      (∀ sign, second.kind ≠ .operator sign) → first.value = second.value →
      (context.fill first).value = (context.fill second).value) ∧
    (∀ context : Context, ∃ respond : Except EvalError Int → Except EvalError Int,
      ∀ operand : Tree, (∀ sign, operand.kind ≠ .operator sign) →
        (context.fill operand).value = respond operand.value) ∧
    (∀ (context : Context) (nested : Tree) (reduced : Int), nested.kind = .group →
      nested.value = .ok reduced → 0 ≤ reduced →
      (context.fill (.number (Decimal.write reduced))).value = (context.fill nested).value) ∧
    ∀ (tree : Tree) (number : Nat), number < tree.size → ∃ (context : Context) (part : Tree),
      (Arena.ofTree tree).shape number = some part ∧ context.fill part = tree := by
  have exchanges : ∀ (context : Context) (first second : Tree),
      (∀ sign, first.kind ≠ .operator sign) → (∀ sign, second.kind ≠ .operator sign) →
      first.value = second.value → (context.fill first).value = (context.fill second).value := by
    intro context first second isOperand isOther same
    rw [context.value_fill isOperand, context.value_fill isOther, same]
  refine ⟨exchanges, ?_, ?_, ?_⟩
  · intro context
    exact ⟨fun result => (context.respond (.operand result)).result,
      fun operand isOperand => context.value_fill isOperand⟩
  · intro context nested reduced isGroup worked natural
    apply exchanges context
    · exact nofun
    · intro sign isOperator
      rw [isGroup] at isOperator
      cases isOperator
    · rw [value_number_write natural, worked]
  · intro tree number inside
    have placed : Placed (Arena.ofTree tree).slots none 0 tree := placed_slots tree
    obtain ⟨context, part, beyond, found, filled⟩ :=
      placed.exists_context (Nat.zero_le number) (by simpa using inside)
    exact ⟨context, part, Arena.shape_of_placed found, filled⟩

/-- A group is replaced in front of a fault, where an operator is missing, and below a
number, which ignores it. -/
theorem nested_group_replaced :
    let sum := node .group [.number "2", .operator .add, .number "03"]
    let faulty := Context.inside .group [] (.inside .group [] .hole []) [.operator .add]
    let missing := Context.inside .group [.number "1"] .hole []
    let ignored := Context.inside (.number "7") [] .hole []
    sum.value = .ok 5 ∧
      (faulty.fill (.number (Decimal.write 5))).value = (faulty.fill sum).value ∧
      (missing.fill (.number (Decimal.write 5))).value = (missing.fill sum).value ∧
      (ignored.fill (.number (Decimal.write 5))).value = (ignored.fill sum).value ∧
      (faulty.fill sum).value = .error .danglingOperator ∧
      (faulty.fill emptyGroup).value = (faulty.fill (node .group [sum, .operator .add,
        emptyGroup])).value ∧
      ∃ (context : Context) (part : Tree),
        (Arena.ofTree (faulty.fill sum)).shape 3 = some part ∧
          context.fill part = faulty.fill sum := by
  intro sum faulty missing ignored
  obtain ⟨exchanges, _, numbers, places⟩ := value_fill_eq_of_value_eq
  have worked : sum.value = .ok 5 := rfl
  refine ⟨worked, numbers faulty sum 5 rfl worked (by decide),
    numbers missing sum 5 rfl worked (by decide), numbers ignored sum 5 rfl worked (by decide), rfl,
    exchanges faulty _ _ nofun nofun rfl, places _ 3 (by decide)⟩

end Tree

end Reckoner
