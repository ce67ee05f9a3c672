import Reckoner.Tree.Basic

/-!
# Node numbers

The nodes of a tree are numbered in preorder: the root is 0, and a node comes
before its children, which come in order with everything below them. A tree that
grows at the root keeps its numbers, and the new nodes get the next free ones, so
the numbers also show the order in which the nodes were appended.

The slot table lists, for each number, the node's kind, the number of its parent
and the numbers of its children. Nothing is stored with the tree: the table is
computed from the shape.
-/

namespace Reckoner.Tree

/-- One row of the table. The root has no parent. -/
structure Slot where
  kind : Kind
  parent : Option Nat
  children : List Nat
deriving DecidableEq, Repr

/-- The numbers of sibling trees when the first of them has the number `first`.
Each one is followed by the nodes below it. -/
def siblingNumbers (first : Nat) : List Tree → List Nat
  | [] => []
  | tree :: later => first :: siblingNumbers (first + tree.size) later

mutual

/-- The rows of a tree whose root has the number `first`. -/
def slotsFrom (parent : Option Nat) (first : Nat) : Tree → List Slot
  | .node kind children =>
    ⟨kind, parent, siblingNumbers (first + 1) children⟩ :: slotsBelow first (first + 1) children

/-- The rows of sibling trees below the node `parent`. -/
def slotsBelow (parent first : Nat) : List Tree → List Slot
  | [] => []
  | tree :: later =>
    slotsFrom (some parent) first tree ++ slotsBelow parent (first + tree.size) later

end

/-- The table of the whole tree; the row of node `n` stands at index `n`. -/
def slots (tree : Tree) : List Slot := slotsFrom none 0 tree

/-- The number of the root's last child, if it has children. -/
def lastChildNumber? (tree : Tree) : Option Nat :=
  (siblingNumbers 1 tree.children).getLast?

end Reckoner.Tree
