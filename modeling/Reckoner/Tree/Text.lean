import Reckoner.Text.Quoted
import Reckoner.Tree.Basic

/-!
# Trees as text

Three ways to write a tree down. Its text is an expression again: a number is its
literal, an operator its sign, and a group its children in parentheses with one
space between neighbours. Its outline has one line for each node, indented by
depth. The description of a root names the kind in full.

The text shows the children of groups only, the outline those of every node.
-/

namespace Reckoner.Tree

mutual

/-- The tree as an expression. -/
def text : Tree → String
  | .node (.number literal) _ => literal
  | .node (.operator sign) _ => sign.text
  | .node .group children => "(" ++ textAll children ++ ")"

/-- The texts of neighbours, separated by single spaces. -/
def textAll : List Tree → String
  | [] => ""
  | [tree] => tree.text
  | tree :: next :: later => tree.text ++ " " ++ textAll (next :: later)

end

/-- The word for a node in an outline. -/
def Kind.outlineWord : Kind → String
  | .group => "group"
  | .operator sign => sign.text
  | .number literal => literal

/-- The line for a node in an outline, without the newline at its end. -/
def outlineLine (depth : Nat) (kind : Kind) : String :=
  String.ofList (List.replicate (2 * depth) ' ') ++ "|- " ++ kind.outlineWord

mutual

/-- The lines for a tree whose root stands at the given depth, in preorder. -/
def outlineLines (depth : Nat) : Tree → List String
  | .node kind children => outlineLine depth kind :: outlineLinesAll (depth + 1) children

/-- The lines for sibling trees. -/
def outlineLinesAll (depth : Nat) : List Tree → List String
  | [] => []
  | tree :: later => outlineLines depth tree ++ outlineLinesAll depth later

end

/-- The whole outline, with a newline after each line. -/
def outline (tree : Tree) : String :=
  String.join ((outlineLines 0 tree).map (· ++ "\n"))

/-- The tree's text, marked as that of a syntax tree. -/
def describe (tree : Tree) : String := "Ast(" ++ tree.text ++ ")"

/-- A kind with all it holds; a literal is quoted. -/
def Kind.describe : Kind → String
  | .group => "Group"
  | .operator .add => "Operator(Add)"
  | .operator .subtract => "Operator(Subtract)"
  | .number literal => "Number(" ++ Quoted.literal literal ++ ")"

/-- The root's number and kind. -/
def describeRoot (tree : Tree) : String :=
  "Node \x7b id: NodeId(0), kind: " ++ tree.kind.describe ++ " \x7d"

end Reckoner.Tree
