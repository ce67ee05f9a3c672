import Mathlib.Data.List.Basic
import Reckoner.Tree.Numbering

/-!
# Trees in a table

A tree is placed at a row of a table when its rows stand there in one piece, its
root's row first. The subtrees of a placed tree are placed too, each one at the
number that its parent's row lists for it, so what holds of a whole table is
proved by going down a tree and never by looking at row numbers.

A table may hold more than the tree. The same lemmas therefore serve a finished
table and one that is still being copied from.
-/

namespace Reckoner.Tree

mutual

/-- A tree has one row for each node. -/
theorem length_slotsFrom (parent : Option Nat) (first : Nat) (tree : Tree) :
    (slotsFrom parent first tree).length = tree.size := by
  obtain ⟨kind, children⟩ := tree
  rw [slotsFrom, size, List.length_cons, length_slotsBelow first (first + 1) children]
  omega

/-- Siblings have one row for each of their nodes. -/
theorem length_slotsBelow (parent first : Nat) (trees : List Tree) :
    (slotsBelow parent first trees).length = sizeAll trees := by
  match trees with
  | [] => simp [slotsBelow, sizeAll]
  | tree :: later =>
    rw [slotsBelow, sizeAll, List.length_append, length_slotsFrom (some parent) first tree,
      length_slotsBelow parent (first + tree.size) later]

end

/-- The table of a tree has one row for each node. -/
@[simp] theorem length_slots (tree : Tree) : tree.slots.length = tree.size :=
  length_slotsFrom none 0 tree

/-- A tree has a node, its root. -/
theorem size_pos (tree : Tree) : 0 < tree.size := by
  obtain ⟨kind, children⟩ := tree
  rw [size]
  omega

/-! ## Numbers of siblings -/

/-- The numbers of siblings lie in the block that the siblings fill. -/
theorem mem_siblingNumbers_bounds {first number : Nat} {trees : List Tree}
    (listed : number ∈ siblingNumbers first trees) :
    first ≤ number ∧ number < first + sizeAll trees := by
  induction trees generalizing first with
  | nil => simp [siblingNumbers] at listed
  | cons tree later inductionHypothesis =>
    have occupied := tree.size_pos
    rw [sizeAll]
    rcases List.mem_cons.mp listed with rfl | listed
    · omega
    · have bounds := inductionHypothesis listed
      omega

/-- Later siblings have larger numbers. -/
theorem siblingNumbers_increasing (first : Nat) (trees : List Tree) :
    (siblingNumbers first trees).Pairwise (· < ·) := by
  induction trees generalizing first with
  | nil => exact .nil
  | cons tree later inductionHypothesis =>
    refine .cons (fun number listed => ?_) (inductionHypothesis (first + tree.size))
    have bounds := mem_siblingNumbers_bounds listed
    have occupied := tree.size_pos
    omega

/-- The numbers of siblings in two parts are those of the first part and then those of the
second, which begin behind the nodes of the first. -/
theorem siblingNumbers_append (first : Nat) (trees others : List Tree) :
    siblingNumbers first (trees ++ others) =
      siblingNumbers first trees ++ siblingNumbers (first + sizeAll trees) others := by
  induction trees generalizing first with
  | nil => simp [siblingNumbers, sizeAll]
  | cons tree later inductionHypothesis =>
    simp [siblingNumbers, sizeAll, inductionHypothesis, Nat.add_assoc]

/-- The rows of siblings in two parts are those of the first part and then those of the
second. -/
theorem slotsBelow_append (parent first : Nat) (trees others : List Tree) :
    slotsBelow parent first (trees ++ others) =
      slotsBelow parent first trees ++ slotsBelow parent (first + sizeAll trees) others := by
  induction trees generalizing first with
  | nil => simp [slotsBelow, sizeAll]
  | cons tree later inductionHypothesis =>
    simp [slotsBelow, sizeAll, inductionHypothesis, Nat.add_assoc]

/-! ## Placed trees -/

/-- The rows of the tree stand in the table, from the row `first` on. -/
def Placed (table : List Slot) (parent : Option Nat) (first : Nat) (tree : Tree) : Prop :=
  slotsFrom parent first tree <+: table.drop first

/-- The rows of the siblings stand in the table, from the row `first` on. -/
def PlacedAll (table : List Slot) (parent first : Nat) (trees : List Tree) : Prop :=
  slotsBelow parent first trees <+: table.drop first

variable {table : List Slot} {parent : Option Nat} {first : Nat}

/-- A tree is placed in its own table, at the front. -/
theorem placed_slots (tree : Tree) : Placed tree.slots none 0 tree := List.prefix_rfl

/-- Two pieces stand in a row exactly when the second begins where the first
ends. -/
theorem append_prefix_drop_iff {front back : List Slot} :
    front ++ back <+: table.drop first ↔
      front <+: table.drop first ∧ back <+: table.drop (first + front.length) := by
  constructor
  · rintro ⟨rest, whole⟩
    rw [← List.drop_drop, ← whole, List.append_assoc]
    exact ⟨List.prefix_append front _, by simp⟩
  · rintro ⟨⟨middle, whole⟩, rest, piece⟩
    rw [← List.drop_drop, ← whole, List.drop_left] at piece
    exact ⟨rest, by rw [List.append_assoc, piece, whole]⟩

/-- One row stands where the table has it. -/
theorem singleton_prefix_drop_iff {slot : Slot} :
    [slot] <+: table.drop first ↔ table[first]? = some slot := by
  rw [← List.head?_drop]
  cases table.drop first with
  | nil => simp
  | cons next rest => simp [eq_comm]

/-- A node is placed by its own row and by its children behind it. -/
theorem placed_node_iff {kind : Kind} {children : List Tree} :
    Placed table parent first (.node kind children) ↔
      table[first]? = some ⟨kind, parent, siblingNumbers (first + 1) children⟩ ∧
        PlacedAll table first (first + 1) children := by
  rw [Placed, slotsFrom, ← List.singleton_append, append_prefix_drop_iff,
    singleton_prefix_drop_iff]
  rfl

/-- Siblings are placed by the first of them and by the others behind it. -/
theorem placedAll_cons_iff {owner : Nat} {tree : Tree} {later : List Tree} :
    PlacedAll table owner first (tree :: later) ↔
      Placed table (some owner) first tree ∧
        PlacedAll table owner (first + tree.size) later := by
  rw [PlacedAll, slotsBelow, append_prefix_drop_iff, length_slotsFrom]
  rfl

/-- A placed tree's root has its row there. -/
theorem Placed.row {tree : Tree} (placed : Placed table parent first tree) :
    table[first]? =
      some ⟨tree.kind, parent, siblingNumbers (first + 1) tree.children⟩ := by
  obtain ⟨kind, children⟩ := tree
  exact (placed_node_iff.mp placed).1

/-- The children of a placed tree are placed behind its root's row. -/
theorem Placed.below {tree : Tree} (placed : Placed table parent first tree) :
    PlacedAll table first (first + 1) tree.children := by
  obtain ⟨kind, children⟩ := tree
  exact (placed_node_iff.mp placed).2

/-- A placed tree ends within the table. -/
theorem Placed.fits {tree : Tree} (placed : Placed table parent first tree) :
    first + tree.size ≤ table.length := by
  have short := placed.length_le
  have occupied := tree.size_pos
  rw [length_slotsFrom, List.length_drop] at short
  omega

/-- Where a number is listed for siblings, one of them is placed. -/
theorem PlacedAll.of_listed {owner number : Nat} {trees : List Tree}
    (placed : PlacedAll table owner first trees) (listed : number ∈ siblingNumbers first trees) :
    ∃ tree, Placed table (some owner) number tree := by
  induction trees generalizing first with
  | nil => simp [siblingNumbers] at listed
  | cons tree later inductionHypothesis =>
    obtain ⟨here, further⟩ := placedAll_cons_iff.mp placed
    rcases List.mem_cons.mp listed with rfl | listed
    · exact ⟨tree, here⟩
    · exact inductionHypothesis further listed

/-- A number stands in the child list of the row `owner`. -/
def Listed (table : List Slot) (owner number : Nat) : Prop :=
  ∃ slot, table[owner]? = some slot ∧ number ∈ slot.children

mutual

/-- Every row of a placed tree is the first row of a subtree, which is the whole
tree or is listed by an earlier row of it, its parent's. -/
theorem Placed.subtree {parent : Option Nat} {first number : Nat} {tree : Tree}
    (placed : Placed table parent first tree) (fromFirst : first ≤ number)
    (inside : number < first + tree.size) :
    ∃ above part, Placed table above number part ∧
      (number = first ∧ above = parent ∨
        ∃ row, above = some row ∧ first ≤ row ∧ row < number ∧ Listed table row number) := by
  obtain ⟨kind, children⟩ := tree
  rcases Nat.eq_or_lt_of_le fromFirst with rfl | behind
  · exact ⟨parent, .node kind children, placed, .inl ⟨rfl, rfl⟩⟩
  · rw [size, ← Nat.add_assoc] at inside
    obtain ⟨above, part, found, place⟩ := placed.below.subtree behind inside
    refine ⟨above, part, found, .inr ?_⟩
    rcases place with ⟨named, listed⟩ | ⟨row, named, behindFirst, before, listed⟩
    · exact ⟨first, named, Nat.le_refl first, behind, _, placed.row, listed⟩
    · exact ⟨row, named, Nat.le_of_lt behindFirst, before, listed⟩

/-- The same for siblings, whose roots are listed by a row elsewhere. -/
theorem PlacedAll.subtree {owner first number : Nat} {trees : List Tree}
    (placed : PlacedAll table owner first trees) (fromFirst : first ≤ number)
    (inside : number < first + sizeAll trees) :
    ∃ above part, Placed table above number part ∧
      (above = some owner ∧ number ∈ siblingNumbers first trees ∨
        ∃ row, above = some row ∧ first ≤ row ∧ row < number ∧ Listed table row number) := by
  match trees with
  | [] =>
    rw [sizeAll] at inside
    omega
  | tree :: later =>
    obtain ⟨here, further⟩ := placedAll_cons_iff.mp placed
    rw [sizeAll, ← Nat.add_assoc] at inside
    rcases Nat.lt_or_ge number (first + tree.size) with within | beyond
    · obtain ⟨above, part, found, place⟩ := here.subtree fromFirst within
      refine ⟨above, part, found, place.imp_left ?_⟩
      rintro ⟨atFirst, named⟩
      exact ⟨named, List.mem_cons.mpr (.inl atFirst)⟩
    · obtain ⟨above, part, found, place⟩ := further.subtree beyond inside
      refine ⟨above, part, found, place.imp ?_ ?_⟩
      · rintro ⟨named, listed⟩
        exact ⟨named, List.mem_cons_of_mem _ listed⟩
      · rintro ⟨row, named, behindFirst, before, listed⟩
        exact ⟨row, named, by omega, before, listed⟩

end

end Reckoner.Tree
