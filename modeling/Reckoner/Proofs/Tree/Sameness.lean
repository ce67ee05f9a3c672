import Mathlib.Data.List.Forall2
import Reckoner.Proofs.Tree.Copies
import Reckoner.Tree.Text
import Reckoner.Tree.Value

/-!
# Nodes that are the same

Two nodes are compared by going down from both of them at once: their kinds have to
agree, they need equally many children, and these are paired off in order and compared
in turn. Numbers of rows are followed and never compared, so the nodes may stand in one
arena or in two, and anywhere in them.

Nodes are the same exactly if the trees that hang from them are. Whatever is made of a
node without looking at numbers is therefore alike for nodes that are the same. Whole
trees have their rows in preorder, and there the numbers agree as well: two arenas whose
roots are the same are row by row the same.
-/

namespace Reckoner

namespace Arena

open Reckoner.Tree

/-- Whether a node of this arena and a node of another have the same kind, equally many
children, and pairwise the same children, where at most `depth` levels are compared. The
pairs end with the shorter list, so the counts are looked at first. -/
def sameWithin (arena other : Arena) : Nat → Nat → Nat → Option Bool
  | 0, _, _ => none
  | depth + 1, left, right => do
    let slot ← arena.slots[left]?
    let row ← other.slots[right]?
    if slot.kind = row.kind ∧ slot.children.length = row.children.length then
      (slot.children.zip row.children).allM fun pair => sameWithin arena other depth pair.1 pair.2
    else some false

/-- Whether two nodes are the same. -/
def same (arena other : Arena) (left right : Nat) : Option Bool :=
  arena.sameWithin other arena.slots.length left right

end Arena

namespace Tree

/-- Siblings have one number each. -/
@[simp] theorem length_siblingNumbers (first : Nat) (trees : List Tree) :
    (siblingNumbers first trees).length = trees.length := by
  induction trees generalizing first with
  | nil => rfl
  | cons tree later inductionHypothesis => simp [siblingNumbers, inductionHypothesis]

/-- Lists with different numbers of trees are not the same. -/
theorem sameAll_of_length_ne {trees others : List Tree} (uneven : trees.length ≠ others.length) :
    sameAll trees others = false := by
  apply Bool.eq_false_iff.mpr
  intro same
  exact uneven (congrArg List.length ((sameAll_iff_eq trees others).mp same))

mutual

/-- What is made of a tree without looking at numbers does not depend on where the
numbers begin. -/
theorem foldFrom_unnumbered {α : Type} (visit : Kind → List α → α) (first other : Nat)
    (tree : Tree) : foldFrom (fun _ => visit) first tree = foldFrom (fun _ => visit) other tree := by
  obtain ⟨kind, children⟩ := tree
  rw [foldFrom, foldFrom, foldBelow_unnumbered visit (first + 1) (other + 1) children]

/-- What is made of siblings without looking at numbers does not depend on where the
numbers begin either. -/
theorem foldBelow_unnumbered {α : Type} (visit : Kind → List α → α) (first other : Nat)
    (trees : List Tree) :
    foldBelow (fun _ => visit) first trees = foldBelow (fun _ => visit) other trees := by
  match trees with
  | [] => rfl
  | tree :: later =>
    rw [foldBelow, foldBelow, foldFrom_unnumbered visit first other tree,
      foldBelow_unnumbered visit (first + tree.size) (other + tree.size) later]

end

/-- The rows of a tree tell the tree, which can be built again from them. -/
theorem slots_injective {tree twin : Tree} (rows : tree.slots = twin.slots) : tree = twin := by
  have placed : Placed (Arena.ofTree tree).slots none 0 tree := placed_slots tree
  have twinPlaced : Placed (Arena.ofTree tree).slots none 0 twin := by
    rw [Arena.slots_ofTree, rows]
    exact placed_slots twin
  exact Option.some.inj
    ((Arena.shape_of_placed placed).symm.trans (Arena.shape_of_placed twinPlaced))

/-- Trees are the same exactly if their rows are. -/
theorem same_iff_slots (tree twin : Tree) :
    tree.same twin = true ↔ tree.slots = twin.slots := by
  rw [same_iff_eq]
  constructor
  · rintro rfl
    rfl
  · exact slots_injective

end Tree

namespace Arena

open Reckoner.Tree

variable {arena other : Arena}

mutual

/-- Nodes with trees placed at them are compared like the trees.

Proof: induction along the first tree. The counts are equal when the children are paired
off, so both lists of siblings end together. -/
theorem sameWithin_of_placed {depth left right : Nat} {above beyond : Option Nat}
    {tree twin : Tree} (placed : Placed arena.slots above left tree)
    (twinPlaced : Placed other.slots beyond right twin) (enough : tree.size ≤ depth) :
    arena.sameWithin other depth left right = some (tree.same twin) := by
  obtain ⟨kind, children⟩ := tree
  obtain ⟨twinKind, twins⟩ := twin
  obtain ⟨row, below⟩ := placed_node_iff.mp placed
  obtain ⟨twinRow, twinBelow⟩ := placed_node_iff.mp twinPlaced
  rw [size, Nat.add_comm] at enough
  cases depth with
  | zero => omega
  | succ depth =>
    have pairs := allSame_of_placed below twinBelow (Nat.le_of_succ_le_succ enough)
    rw [sameWithin, row, twinRow, Tree.same]
    by_cases kinds : kind = twinKind
    · by_cases even : children.length = twins.length
      · simp [kinds, even, pairs even]
      · simp [kinds, even, sameAll_of_length_ne even]
    · simp [kinds]

/-- Siblings that are equally many are compared in pairs, like the trees. -/
theorem allSame_of_placed {depth left right owner leader : Nat} {trees twins : List Tree}
    (placed : PlacedAll arena.slots owner left trees)
    (twinsPlaced : PlacedAll other.slots leader right twins) (enough : sizeAll trees ≤ depth)
    (even : trees.length = twins.length) :
    ((siblingNumbers left trees).zip (siblingNumbers right twins)).allM
        (fun pair => arena.sameWithin other depth pair.1 pair.2) =
      some (sameAll trees twins) := by
  match trees, twins with
  | [], [] => rfl
  | tree :: later, twin :: rest =>
    obtain ⟨here, further⟩ := placedAll_cons_iff.mp placed
    obtain ⟨twinHere, twinFurther⟩ := placedAll_cons_iff.mp twinsPlaced
    rw [sizeAll] at enough
    have head := sameWithin_of_placed here twinHere (Nat.le_of_add_right_le enough)
    have pairs := allSame_of_placed further twinFurther (Nat.le_of_add_left_le enough)
      (Nat.succ.inj even)
    rw [siblingNumbers, siblingNumbers, List.zip_cons_cons, List.allM_cons, head, sameAll]
    cases tree.same twin with
    | true => simpa using pairs
    | false => rfl

end

/-- Nodes with trees placed at them are compared like the trees. A comparison goes down no
further than an arena has rows, which is deep enough for a placed tree. -/
theorem same_of_placed {left right : Nat} {above beyond : Option Nat} {tree twin : Tree}
    (placed : Placed arena.slots above left tree)
    (twinPlaced : Placed other.slots beyond right twin) :
    arena.same other left right = some (tree.same twin) :=
  sameWithin_of_placed placed twinPlaced (Nat.le_of_add_left_le placed.fits)

/-- The roots of two trees' arenas are compared like the trees. -/
theorem same_roots (tree twin : Tree) :
    (ofTree tree).same (ofTree twin) 0 0 = some (tree.same twin) :=
  same_of_placed (placed_slots tree) (placed_slots twin)

/-! ## Nodes of trees that were made -/

/-- A node in an arena that a history leads to. -/
structure Node where
  arena : Arena
  number : Nat
  made : ∃ construction : Construction, construction.arena = some arena
  inside : number < arena.slots.length

namespace Node

/-- Whether two nodes are the same. -/
def Same (node twin : Node) : Prop :=
  node.arena.same twin.arena node.number twin.number = some true

/-- A tree is placed at every node: the arena of a history is that of a tree, and every row
of it is the first of a subtree. -/
theorem exists_placed (node : Node) :
    ∃ above tree, Placed node.arena.slots above node.number tree := by
  obtain ⟨arena, number, ⟨construction, built⟩, inside⟩ := node
  obtain rfl := Option.some.inj (construction.arena_eq_ofTree.symm.trans built)
  obtain ⟨tree, placed, _⟩ := exists_part (List.getElem?_eq_getElem inside)
  exact ⟨_, tree, placed⟩

/-- Nodes are compared like the trees that hang from them. -/
theorem exists_shapes (node twin : Node) :
    ∃ tree other, node.arena.shape node.number = some tree ∧
      twin.arena.shape twin.number = some other ∧
      node.arena.same twin.arena node.number twin.number = some (tree.same other) := by
  obtain ⟨_, tree, placed⟩ := node.exists_placed
  obtain ⟨_, other, twinPlaced⟩ := twin.exists_placed
  exact ⟨tree, other, shape_of_placed placed, shape_of_placed twinPlaced,
    same_of_placed placed twinPlaced⟩

/-- Nodes are the same exactly if the same tree hangs from them. -/
theorem same_iff_shape (node twin : Node) :
    node.Same twin ↔ node.arena.shape node.number = twin.arena.shape twin.number := by
  obtain ⟨tree, other, shape, twinShape, compared⟩ := node.exists_shapes twin
  rw [Same, compared, shape, twinShape, Option.some.injEq, Option.some.injEq, same_iff_eq]

/-- Being the same is an equivalence, since having the same tree below is. -/
theorem same_equivalence : Equivalence Same where
  refl node := (same_iff_shape node node).mpr rfl
  symm {node twin} same := (same_iff_shape twin node).mpr ((same_iff_shape node twin).mp same).symm
  trans {node twin third} same further := (same_iff_shape node third).mpr
    (((same_iff_shape node twin).mp same).trans ((same_iff_shape twin third).mp further))

/-- A traversal that does not look at numbers does not tell apart nodes that are the
same. -/
theorem Same.fold {node twin : Node} (same : node.Same twin) {α : Type}
    (visit : Kind → List α → α) :
    node.arena.fold (fun _ => visit) node.number = twin.arena.fold (fun _ => visit) twin.number := by
  obtain ⟨_, tree, placed⟩ := node.exists_placed
  obtain ⟨_, other, twinPlaced⟩ := twin.exists_placed
  have shapes := (same_iff_shape node twin).mp same
  rw [shape_of_placed placed, shape_of_placed twinPlaced] at shapes
  obtain rfl := Option.some.inj shapes
  rw [fold_of_placed _ placed, fold_of_placed _ twinPlaced,
    foldFrom_unnumbered visit node.number twin.number]

end Node

end Arena

/-! ## Trees in the making -/

namespace Construction

/-- Whether two histories lead to arenas whose roots are the same. -/
def Same (construction other : Construction) : Prop :=
  ∃ arena twin, construction.arena = some arena ∧ other.arena = some twin ∧
    arena.same twin 0 0 = some true

/-- Two histories lead to arenas with the same roots exactly if they lead to the same
tree. -/
theorem same_iff (construction other : Construction) :
    construction.Same other ↔ construction.tree = other.tree := by
  rw [← Tree.same_iff_eq, ← Option.some.injEq (construction.tree.same other.tree),
    ← Arena.same_roots]
  constructor
  · rintro ⟨arena, twin, built, twinBuilt, same⟩
    cases construction.arena_eq_ofTree.symm.trans built
    cases other.arena_eq_ofTree.symm.trans twinBuilt
    exact same
  · intro same
    exact ⟨_, _, construction.arena_eq_ofTree, other.arena_eq_ofTree, same⟩

/-- Histories that are pairwise the same lead to the same trees. -/
theorem trees_eq_of_same {parts others : List Construction}
    (same : List.Forall₂ Same parts others) : trees parts = trees others := by
  induction same with
  | nil => rfl
  | cons head _ inductionHypothesis =>
    rw [trees, trees, (same_iff _ _).mp head, inductionHypothesis]

/-- Two nodes, of one arena or of two, are the same exactly if the same tree hangs from them,
with all that is below numbers and operators. This is an equivalence. Whatever is made of a
node without looking at numbers is alike for nodes that are the same; trees that are the same
have the same text, outline and value, and what grows alike from them is the same again. Of
whole trees even all rows are the same. -/
theorem same_nodes_have_same_shapes :
    (∀ node twin : Arena.Node, ∃ tree other, node.arena.shape node.number = some tree ∧
      twin.arena.shape twin.number = some other ∧
      node.arena.same twin.arena node.number twin.number = some (tree.same other) ∧
      (tree.same other = true ↔ tree = other)) ∧
    Equivalence Arena.Node.Same ∧
    (∀ node twin : Arena.Node, node.Same twin → ∀ (α : Type) (visit : Tree.Kind → List α → α),
      node.arena.fold (fun _ => visit) node.number =
        twin.arena.fold (fun _ => visit) twin.number) ∧
    (∀ first second : Construction, first.Same second →
      first.tree.text = second.tree.text ∧ first.tree.outline = second.tree.outline ∧
      first.tree.value = second.tree.value) ∧
    (∀ target twin source copied : Construction, target.Same twin → source.Same copied →
      (push target source).Same (push twin copied) ∧
      (extend target source).Same (extend twin copied)) ∧
    (∀ parts others : List Construction, List.Forall₂ Same parts others →
      (groupOf parts).Same (groupOf others)) ∧
    (∀ (first second : Construction) (arena twin : Arena), first.arena = some arena →
      second.arena = some twin →
      (arena.same twin 0 0 = some true ↔ arena.slots = twin.slots)) ∧
    ∀ tree other : Tree, tree.same other = true ↔ tree.slots = other.slots := by
  refine ⟨?_, Arena.Node.same_equivalence, ?_, ?_, ?_, ?_, ?_, Tree.same_iff_slots⟩
  · intro node twin
    obtain ⟨tree, other, shape, twinShape, compared⟩ := node.exists_shapes twin
    exact ⟨tree, other, shape, twinShape, compared, Tree.same_iff_eq tree other⟩
  · intro node twin same α visit
    exact same.fold visit
  · intro first second same
    rw [(same_iff first second).mp same]
    exact ⟨rfl, rfl, rfl⟩
  · intro target twin source copied targets sources
    have targetEq := (same_iff target twin).mp targets
    have sourceEq := (same_iff source copied).mp sources
    simp only [same_iff, tree, targetEq, sourceEq, and_self]
  · intro parts others same
    rw [same_iff, tree, tree, trees_eq_of_same same]
  · intro first second arena twin built twinBuilt
    cases first.arena_eq_ofTree.symm.trans built
    cases second.arena_eq_ofTree.symm.trans twinBuilt
    rw [Arena.same_roots, Option.some.injEq]
    exact Tree.same_iff_slots first.tree second.tree

/-- A group that was grown by a push and an extension is the same as one that was made of the
same parts at once, and has the same rows. It stays the same when both are pushed into
themselves or put into larger groups. The two numbers in such a larger group are the same
wherever they stand. -/
theorem grown_group_same_as_made :
    let one := new (.number "1")
    let rest := [new (.operator .add), new (.number "2")]
    let grown := extend (push (new .group) one) (groupOf rest)
    let made := groupOf (one :: rest)
    grown.Same made ∧ grown.tree.value = made.tree.value ∧
      (push grown grown).Same (push made made) ∧
      List.Forall₂ Same [grown, one] [made, one] ∧
      (groupOf [grown, one]).Same (groupOf [made, one]) ∧
      (∃ arena twin, grown.arena = some arena ∧ made.arena = some twin ∧
        arena.same twin 0 0 = some true ∧ arena.slots = twin.slots) ∧
      ∃ arena, (groupOf [grown, one]).arena = some arena ∧ arena.same arena 2 5 = some true ∧
        arena.fold (fun _ kind (_ : List Tree.Kind) => kind) 2 =
          arena.fold (fun _ kind (_ : List Tree.Kind) => kind) 5 := by
  intro one rest grown made
  obtain ⟨_, _, traversed, shown, grows, groups, rows, _⟩ := same_nodes_have_same_shapes
  have alike : grown.Same made := ⟨_, _, rfl, rfl, rfl⟩
  have itself : one.Same one := ⟨_, _, rfl, rfl, rfl⟩
  have parts : List.Forall₂ Same [grown, one] [made, one] :=
    .cons alike (.cons itself .nil)
  have sameRows := rows grown made _ _ grown.arena_eq_ofTree made.arena_eq_ofTree
  let larger := Arena.ofTree (groupOf [grown, one]).tree
  let first : Arena.Node := ⟨larger, 2, ⟨_, arena_eq_ofTree _⟩, by decide⟩
  let last : Arena.Node := ⟨larger, 5, ⟨_, arena_eq_ofTree _⟩, by decide⟩
  have numbers : first.Same last := rfl
  exact ⟨alike, (shown grown made alike).2.2, (grows grown made grown made alike alike).1, parts,
    groups _ _ parts, ⟨_, _, grown.arena_eq_ofTree, made.arena_eq_ofTree, rfl, sameRows.mp rfl⟩,
    larger, arena_eq_ofTree _, numbers, traversed first last numbers _ _⟩

end Construction

end Reckoner
