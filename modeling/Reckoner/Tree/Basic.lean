import Reckoner.Sign

/-!
# Expression trees

A tree is a node of some kind with a list of child trees. Groups hold the
operands and operators of an expression side by side, in the order in which they
were written. Any node may have children, also a number or an operator: the
constructors do not rule it out, and only groups give their children a meaning.

Trees grow at the root only. `push` appends one tree as the last child of the
root, and `extend` appends the children of another tree's root. Both return a new
tree, so a tree that someone else holds never changes.
-/

namespace Reckoner

/-- What a node is. A number keeps its literal as it was written. -/
inductive Tree.Kind where
  | group
  | operator (sign : Sign)
  | number (literal : String)
deriving DecidableEq, Repr, Inhabited

/-- A node with its children in order. -/
inductive Tree where
  | node (kind : Tree.Kind) (children : List Tree)
deriving Repr, Inhabited

namespace Tree

/-- The kind of the root. -/
def kind : Tree → Kind
  | .node kind _ => kind

/-- The children of the root, in order. -/
def children : Tree → List Tree
  | .node _ children => children

/-- A group with nothing in it. -/
def emptyGroup : Tree := .node .group []

/-- A number on its own. The literal is not checked. -/
def number (literal : String) : Tree := .node (.number literal) []

/-- An operator on its own. -/
def operator (sign : Sign) : Tree := .node (.operator sign) []

/-- Appends a tree as the last child of the root. -/
def push : Tree → Tree → Tree
  | .node kind children, child => .node kind (children ++ [child])

/-- Appends the children of another tree's root to the root. The other root
itself is left out. -/
def extend : Tree → Tree → Tree
  | .node kind children, other => .node kind (children ++ other.children)

/-- A group of the given trees. -/
def groupOf (trees : List Tree) : Tree := trees.foldl push emptyGroup

mutual

/-- The number of nodes. -/
def size : Tree → Nat
  | .node _ children => 1 + sizeAll children

/-- The number of nodes of several trees. -/
def sizeAll : List Tree → Nat
  | [] => 0
  | tree :: later => tree.size + sizeAll later

end

mutual

/-- Whether two trees have the same kinds and literals in the same shape. -/
def same : Tree → Tree → Bool
  | .node kind children, .node otherKind others =>
    decide (kind = otherKind) && sameAll children others

/-- Whether two lists have as many trees and pairwise the same ones. -/
def sameAll : List Tree → List Tree → Bool
  | [], [] => true
  | tree :: later, other :: others => tree.same other && sameAll later others
  | _, _ => false

end

mutual

/-- Two trees are the same exactly when they are equal. -/
theorem same_iff_eq (tree other : Tree) : tree.same other = true ↔ tree = other := by
  obtain ⟨kind, children⟩ := tree
  obtain ⟨otherKind, others⟩ := other
  simp only [same, Bool.and_eq_true, decide_eq_true_eq, sameAll_iff_eq children others,
    node.injEq]

/-- Lists of trees are pairwise the same exactly when they are equal. -/
theorem sameAll_iff_eq (trees others : List Tree) :
    sameAll trees others = true ↔ trees = others := by
  match trees, others with
  | [], [] => simp [sameAll]
  | [], _ :: _ | _ :: _, [] => simp [sameAll]
  | tree :: later, other :: rest =>
    simp only [sameAll, Bool.and_eq_true, same_iff_eq tree other, sameAll_iff_eq later rest,
      List.cons.injEq]

end

end Tree

end Reckoner
