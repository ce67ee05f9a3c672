import Reckoner.Proofs.Tree.Placement

/-!
# Tables that grow

An arena keeps the rows of one tree and grows by copying: a graft opens a row for
the node at the end of the table, copies the children below it, each into the
rows that are free by then, and lists the new node with its parent only when the
copy is complete. In the middle of a graft the table therefore holds nodes that
no row lists yet.

Nothing in an arena rules out child numbers without a row, or rows that list each
other in a circle. A graft and a fold over an arena therefore go down at most as
many levels as there are rows. Whatever goes deeper has come back to a row that it
is still busy with and would go on forever; it has no result, like one that meets
a number without a row. The lemmas here say that on a placed tree there is a
result, and which.
-/

namespace Reckoner

/-- The rows of a tree, the root's row first. -/
structure Arena where
  slots : List Tree.Slot
deriving DecidableEq, Repr

/-- A row that lists some more children behind those it has. -/
def Tree.Slot.adopt (numbers : List Nat) (slot : Tree.Slot) : Tree.Slot :=
  { slot with children := slot.children ++ numbers }

namespace Arena

open Reckoner.Tree

/-- The arena of one node. -/
def new (kind : Kind) : Arena := ⟨[⟨kind, none, []⟩]⟩

/-- Opens a row at the end for a node that has no children yet and that its
parent does not list yet. -/
def begin (arena : Arena) (parent : Nat) (kind : Kind) : Arena :=
  ⟨arena.slots ++ [⟨kind, some parent, []⟩]⟩

/-- Lists a node as the last child of its parent, which has to have a row. -/
def enter (arena : Arena) (parent number : Nat) : Option Arena :=
  if parent < arena.slots.length then
    some ⟨arena.slots.modify parent (Slot.adopt [number])⟩
  else none

/-- Copies nodes one after the other, each into the arena that the one before left. -/
def copyAll (copy : Arena → Nat → Option (Nat × Arena)) (arena : Arena) :
    List Nat → Option Arena
  | [] => some arena
  | start :: later => do
    let copied ← copy arena start
    copyAll copy copied.2 later

/-- Copies the node `start` of another arena, with all that is below it, as the
last child of `parent`, if there are at most `depth` levels. The result has the
number of the copy. -/
def graft (source : Arena) : Nat → Arena → Nat → Nat → Option (Nat × Arena)
  | 0, _, _, _ => none
  | depth + 1, arena, parent, start => do
    let slot ← source.slots[start]?
    let number := arena.slots.length
    let filled ← copyAll (fun longer child => graft source depth longer number child)
      (arena.begin parent slot.kind) slot.children
    let entered ← filled.enter parent number
    some (number, entered)

/-- Copies another arena's root as the last child of the root. -/
def push (arena child : Arena) : Option (Nat × Arena) :=
  graft child child.slots.length arena 0 0

/-- Copies the children of another arena's root as the last children of the
root. -/
def extend (arena other : Arena) : Option Arena := do
  let root ← other.slots[0]?
  copyAll (fun longer child => graft other other.slots.length longer 0 child) arena root.children

/-- What `visit` makes of a node with at most `depth` levels, where it gets the
node's number and kind and what it made of the children. -/
def foldWithin {α : Type} (arena : Arena) (visit : Nat → Kind → List α → α) :
    Nat → Nat → Option α
  | 0, _ => none
  | depth + 1, number => do
    let slot ← arena.slots[number]?
    let results ← slot.children.mapM (foldWithin arena visit depth)
    some (visit number slot.kind results)

/-- What `visit` makes of a node. Every traversal that goes from a node to its
children is such a fold: printing, comparing and evaluating, too. -/
def fold {α : Type} (arena : Arena) (visit : Nat → Kind → List α → α) (number : Nat) :
    Option α :=
  foldWithin arena visit arena.slots.length number

/-- The numbers of a node and of all that is below it, in the order of a walk
that visits a node before its children. -/
def walk (arena : Arena) (number : Nat) : Option (List Nat) :=
  arena.fold (fun number _ below => number :: below.flatten) number

/-- The tree that hangs from a node. -/
def shape (arena : Arena) (number : Nat) : Option Tree :=
  arena.fold (fun _ kind children => .node kind children) number

end Arena

/-! ## Folds -/

namespace Tree

variable {α : Type}

mutual

/-- What `visit` makes of a tree whose nodes are numbered from `first` on. -/
def foldFrom (visit : Nat → Kind → List α → α) (first : Nat) : Tree → α
  | .node kind children => visit first kind (foldBelow visit (first + 1) children)

/-- What `visit` makes of siblings. -/
def foldBelow (visit : Nat → Kind → List α → α) (first : Nat) : List Tree → List α
  | [] => []
  | tree :: later => foldFrom visit first tree :: foldBelow visit (first + tree.size) later

end

mutual

/-- A walk over a tree counts its nodes. -/
theorem foldFrom_walk (first : Nat) (tree : Tree) :
    foldFrom (fun number _ below => number :: below.flatten) first tree =
      List.range' first tree.size := by
  obtain ⟨kind, children⟩ := tree
  rw [foldFrom, foldBelow_walk (first + 1) children, size, Nat.add_comm 1, List.range'_succ]

/-- A walk over siblings counts their nodes, one tree after the other. -/
theorem foldBelow_walk (first : Nat) (trees : List Tree) :
    (foldBelow (fun number _ below => number :: below.flatten) first trees).flatten =
      List.range' first (sizeAll trees) := by
  match trees with
  | [] => rfl
  | tree :: later =>
    rw [foldBelow, List.flatten_cons, foldFrom_walk first tree,
      foldBelow_walk (first + tree.size) later, List.range'_append_1, sizeAll]

end

mutual

/-- A fold that puts nodes together again gives back the tree. -/
theorem foldFrom_node (first : Nat) (tree : Tree) :
    foldFrom (fun _ kind children => .node kind children) first tree = tree := by
  obtain ⟨kind, children⟩ := tree
  rw [foldFrom, foldBelow_node (first + 1) children]

/-- Siblings are put together again as well. -/
theorem foldBelow_node (first : Nat) (trees : List Tree) :
    foldBelow (fun _ kind children => .node kind children) first trees = trees := by
  match trees with
  | [] => rfl
  | tree :: later =>
    rw [foldBelow, foldFrom_node first tree, foldBelow_node (first + tree.size) later]

end

end Tree

namespace Arena

open Reckoner.Tree

variable {α : Type} {arena source : Arena}

mutual

/-- A fold that starts at a placed tree ends, with what the tree's own fold comes
to. -/
theorem foldWithin_of_placed (visit : Nat → Kind → List α → α) {depth first : Nat}
    {parent : Option Nat} {tree : Tree} (placed : Placed arena.slots parent first tree)
    (enough : tree.size ≤ depth) :
    arena.foldWithin visit depth first = some (foldFrom visit first tree) := by
  obtain ⟨kind, children⟩ := tree
  obtain ⟨row, below⟩ := placed_node_iff.mp placed
  rw [size, Nat.add_comm] at enough
  cases depth with
  | zero => omega
  | succ depth =>
    have results := foldAll_of_placed visit below (Nat.le_of_succ_le_succ enough)
    rw [foldWithin, row, foldFrom]
    simp [results]

/-- Folds that start at placed siblings end, with what their own folds come to. -/
theorem foldAll_of_placed (visit : Nat → Kind → List α → α) {depth owner first : Nat}
    {trees : List Tree} (placed : PlacedAll arena.slots owner first trees)
    (enough : sizeAll trees ≤ depth) :
    (siblingNumbers first trees).mapM (arena.foldWithin visit depth) =
      some (foldBelow visit first trees) := by
  match trees with
  | [] => rfl
  | tree :: later =>
    obtain ⟨here, further⟩ := placedAll_cons_iff.mp placed
    rw [sizeAll] at enough
    have head := foldWithin_of_placed visit here (Nat.le_of_add_right_le enough)
    have rest := foldAll_of_placed visit further (Nat.le_of_add_left_le enough)
    simp [siblingNumbers, foldBelow, head, rest]

end

/-- No tree has more levels than its table has rows. -/
theorem fold_of_placed (visit : Nat → Kind → List α → α) {parent : Option Nat} {first : Nat}
    {tree : Tree} (placed : Placed arena.slots parent first tree) :
    arena.fold visit first = some (foldFrom visit first tree) :=
  foldWithin_of_placed visit placed (Nat.le_of_add_left_le placed.fits)

/-- A walk from a placed tree visits the rows in which it stands, from the first to the
last. -/
theorem walk_of_placed {parent : Option Nat} {first : Nat} {tree : Tree}
    (placed : Placed arena.slots parent first tree) :
    arena.walk first = some (List.range' first tree.size) := by
  rw [walk, fold_of_placed _ placed, foldFrom_walk]

/-- The tree that hangs from the first row of a placed tree is that tree. -/
theorem shape_of_placed {parent : Option Nat} {first : Nat} {tree : Tree}
    (placed : Placed arena.slots parent first tree) : arena.shape first = some tree := by
  rw [shape, fold_of_placed _ placed, foldFrom_node]

/-! ## Grafts -/

/-- The arena with new rows at the end and new numbers in one child list. -/
def grow (arena : Arena) (parent : Nat) (numbers : List Nat) (rows : List Slot) : Arena :=
  ⟨arena.slots.modify parent (Slot.adopt numbers) ++ rows⟩

/-- An arena grows by its new rows. -/
@[simp] theorem length_grow (parent : Nat) (numbers : List Nat) (rows : List Slot) :
    (arena.grow parent numbers rows).slots.length = arena.slots.length + rows.length := by
  simp [grow]

/-- An arena that grows by nothing stays as it is. -/
theorem grow_nil (arena : Arena) (parent : Nat) : arena.grow parent [] [] = arena := by
  have unchanged : Slot.adopt [] = id := by
    funext slot
    simp [Slot.adopt]
  simp [grow, unchanged]

/-- A row in front is changed alike whatever stands behind it. -/
theorem modify_append {front back : List Slot} {row : Nat} (inside : row < front.length)
    (change : Slot → Slot) :
    (front ++ back).modify row change = front.modify row change ++ back := by
  induction front generalizing row with
  | nil => simp at inside
  | cons slot rest inductionHypothesis =>
    cases row with
    | zero => simp
    | succ row => simpa using inductionHypothesis (by simpa using inside)

/-- To grow twice below one parent is to grow once by both. -/
theorem grow_grow {parent : Nat} (inside : parent < arena.slots.length)
    (numbers later : List Nat) (rows further : List Slot) :
    (arena.grow parent numbers rows).grow parent later further =
      arena.grow parent (numbers ++ later) (rows ++ further) := by
  have twice : Slot.adopt later ∘ Slot.adopt numbers = Slot.adopt (numbers ++ later) := by
    funext slot
    simp [Slot.adopt]
  have front : parent < (arena.slots.modify parent (Slot.adopt numbers)).length := by
    simpa using inside
  simp [grow, modify_append front, List.modify_modify_eq, twice]

/-- A row that was just opened takes its children. -/
theorem grow_begin (arena : Arena) (parent : Nat) (kind : Kind) (numbers : List Nat)
    (rows : List Slot) :
    (arena.begin parent kind).grow arena.slots.length numbers rows =
      ⟨arena.slots ++ ⟨kind, some parent, numbers⟩ :: rows⟩ := by
  rw [grow, begin, List.modify_eq_take_drop, List.take_left, List.drop_left]
  simp [Slot.adopt]

/-- When the rows of a node stand at the end and its parent lists it, the arena has grown
by the node. -/
theorem enter_append {parent : Nat} (inside : parent < arena.slots.length) (rows : List Slot)
    (number : Nat) :
    (Arena.mk (arena.slots ++ rows)).enter parent number =
      some (arena.grow parent [number] rows) := by
  have front : parent < (arena.slots ++ rows).length := by
    rw [List.length_append]
    omega
  rw [enter, if_pos front, modify_append inside, grow]

mutual

/-- A graft of a placed tree adds the tree's rows at the end and lists the first
of them with the parent. -/
theorem graft_of_placed {arena : Arena} {above : Option Nat} {depth parent start : Nat}
    {tree : Tree} (placed : Placed source.slots above start tree) (enough : tree.size ≤ depth)
    (inside : parent < arena.slots.length) :
    graft source depth arena parent start =
      some (arena.slots.length, arena.grow parent [arena.slots.length]
        (slotsFrom (some parent) arena.slots.length tree)) := by
  obtain ⟨kind, children⟩ := tree
  obtain ⟨row, below⟩ := placed_node_iff.mp placed
  rw [size, Nat.add_comm] at enough
  cases depth with
  | zero => omega
  | succ depth =>
    have opened : arena.slots.length < (arena.begin parent kind).slots.length := by simp [begin]
    have free : (arena.begin parent kind).slots.length = arena.slots.length + 1 := by simp [begin]
    -- The children are copied below the last row, which is not listed by its parent yet.
    have filled := copyAll_of_placed below (Nat.le_of_succ_le_succ enough) opened
    rw [grow_begin, free, ← slotsFrom] at filled
    rw [graft, row]
    simp [filled, enter_append inside]

/-- Grafts of siblings add their rows one block behind the other. -/
theorem copyAll_of_placed {arena : Arena} {depth owner parent first : Nat} {trees : List Tree}
    (placed : PlacedAll source.slots owner first trees) (enough : sizeAll trees ≤ depth)
    (inside : parent < arena.slots.length) :
    copyAll (fun longer child => graft source depth longer parent child) arena
        (siblingNumbers first trees) =
      some (arena.grow parent (siblingNumbers arena.slots.length trees)
        (slotsBelow parent arena.slots.length trees)) := by
  match trees with
  | [] => rw [siblingNumbers, copyAll, siblingNumbers, slotsBelow, grow_nil]
  | tree :: later =>
    obtain ⟨here, further⟩ := placedAll_cons_iff.mp placed
    rw [sizeAll] at enough
    have longer : parent < (arena.grow parent [arena.slots.length]
        (slotsFrom (some parent) arena.slots.length tree)).slots.length := by
      rw [length_grow]
      omega
    have head := graft_of_placed here (Nat.le_of_add_right_le enough) inside
    have rest := copyAll_of_placed further (Nat.le_of_add_left_le enough) longer
    rw [length_grow, length_slotsFrom, grow_grow inside] at rest
    rw [siblingNumbers, copyAll, head]
    simpa [siblingNumbers, slotsBelow] using rest

end

/-! ## Arenas of trees -/

/-- The arena that holds a tree and nothing else. -/
def ofTree (tree : Tree) : Arena := ⟨tree.slots⟩

/-- The arena of one node is that of a tree without children. -/
theorem new_eq_ofTree (kind : Kind) : new kind = ofTree (.node kind []) := by
  simp [new, ofTree, Tree.slots, slotsFrom, siblingNumbers, slotsBelow]

/-- A tree that gets more children grows by their rows. -/
theorem grow_ofTree (kind : Kind) (children more : List Tree) :
    (ofTree (.node kind children)).grow 0 (siblingNumbers (1 + sizeAll children) more)
        (slotsBelow 0 (1 + sizeAll children) more) =
      ofTree (.node kind (children ++ more)) := by
  simp [grow, ofTree, Tree.slots, slotsFrom, Slot.adopt, siblingNumbers_append, slotsBelow_append]

/-- A push copies the child's rows behind those of the tree. -/
theorem push_ofTree (tree child : Tree) :
    (ofTree tree).push (ofTree child) = some (tree.size, ofTree (tree.push child)) := by
  obtain ⟨kind, children⟩ := tree
  have rooted : 0 < (ofTree (.node kind children)).slots.length := by
    simp [ofTree, size_pos]
  have grown := grow_ofTree kind children [child]
  have free : (ofTree (.node kind children)).slots.length = 1 + sizeAll children := by
    simp [ofTree, size]
  simp only [siblingNumbers, slotsBelow, List.append_nil] at grown
  have placed : Placed (ofTree child).slots none 0 child := placed_slots child
  have enough : child.size ≤ (ofTree child).slots.length := by simp [ofTree]
  rw [push, graft_of_placed placed enough rooted, free, grown, size, Tree.push]

/-- An extension copies the rows below the other root behind those of the tree. -/
theorem extend_ofTree (tree other : Tree) :
    (ofTree tree).extend (ofTree other) = some (ofTree (tree.extend other)) := by
  obtain ⟨kind, children⟩ := tree
  have rooted : 0 < (ofTree (.node kind children)).slots.length := by
    simp [ofTree, size_pos]
  have free : (ofTree (.node kind children)).slots.length = 1 + sizeAll children := by
    simp [ofTree, size]
  have placed : Placed (ofTree other).slots none 0 other := placed_slots other
  have enough : sizeAll other.children ≤ (ofTree other).slots.length := by
    obtain ⟨_, others⟩ := other
    simp [ofTree, size, Tree.children]
  have copied := copyAll_of_placed placed.below enough rooted
  rw [free, grow_ofTree] at copied
  rw [extend, placed.row]
  simpa [Tree.extend] using copied

end Arena

end Reckoner
