import Mathlib.Data.List.Forall2
import Reckoner.Proofs.SignedSum.Positions
import Reckoner.Proofs.Tree.Construction
import Reckoner.Proofs.Tree.Shape

/-!
# Nodes in the order of the tokens

Every token of an expression becomes a node of the tree, except the closing
parentheses. The nodes are numbered as their tokens stand, and the parent of a node
is the group whose parenthesis was opened last and is still open in front of the
node's token. So the whole table of a parsed tree can be written down from the flat
list of tokens.

One pass over the tokens does that with a stack of the open groups. On the tokens
of a tree the pass comes to the rows of the tree's table, and on any token list it
comes to the nodes that are described by position, without a stack.
-/

namespace Reckoner

/-- The kind of the node that a token becomes; a closing parenthesis becomes none. -/
def Token.nodeKind? (token : Token) : Option Tree.Kind :=
  match token.kind with
  | .number => some (.number token.value)
  | .operator sign => some (.operator sign)
  | .openParen => some .group
  | .closeParen => none

/-- The tokens that become nodes, in order, each with its position. -/
def Token.nodeTokens (list : List Token) : List (Token × Nat) :=
  list.zipIdx.filter fun entry => entry.1.kind ≠ .closeParen

/-- The node of a token is told by the token's kind and the literal of a number. -/
theorem Token.nodeKind?_eq_of_essence {token other : Token}
    (same : token.essence = other.essence) : token.nodeKind? = other.nodeKind? := by
  obtain ⟨kinds, values⟩ := essence_eq_iff.mp same
  cases kind : token.kind with
  | number => simp only [nodeKind?, ← kinds, kind, values kind]
  | openParen | closeParen | operator sign => simp only [nodeKind?, ← kinds, kind]

/-- One token more is one node more, unless it is a closing parenthesis. -/
theorem Token.nodeTokens_take_succ {list : List Token} {position : Nat} {token : Token}
    (found : list[position]? = some token) :
    nodeTokens (list.take (position + 1)) =
      nodeTokens (list.take position) ++ if token.kind = .closeParen then []
        else [(token, position)] := by
  obtain ⟨inside, _⟩ := List.getElem?_eq_some_iff.mp found
  rw [nodeTokens, List.take_add_one, found, List.zipIdx_append, List.filter_append]
  simp only [Option.toList_some, List.length_take, Nat.min_eq_left (Nat.le_of_lt inside)]
  by_cases closing : token.kind = .closeParen <;> simp [nodeTokens, closing]

/-- The nodes of the tokens in front of a position are the first ones of all. -/
theorem Token.nodeTokens_take_prefix (list : List Token) (position : Nat) :
    nodeTokens (list.take position) <+: nodeTokens list := by
  have split := congrArg List.zipIdx (List.take_append_drop position list)
  rw [List.zipIdx_append] at split
  rw [nodeTokens, nodeTokens, ← split, List.filter_append]
  exact List.prefix_append _ _

/-! ## The pass -/

/-- The state of the pass: the numbers of the groups that are open, the innermost
first, and the nodes so far, each with the number of its parent. The root has the
number zero and is no node of a token. -/
structure Roster where
  opened : List Nat
  nodes : List (Tree.Kind × Option Nat)

namespace Roster

open Reckoner.Tree
open SignedSum (restack Encloses Stack)

/-- No group is open but the root, and nothing hangs below it. -/
def start : Roster := ⟨[], []⟩

/-- Takes one token. A node gets the next free number and goes below the innermost
open group. -/
def step (roster : Roster) (token : Token) : Roster :=
  ⟨restack (roster.nodes.length + 1) roster.opened token.kind,
    roster.nodes ++ (token.nodeKind?.map fun kind => (kind, some (roster.opened.headD 0))).toList⟩

/-- Takes tokens one after the other. -/
def run (roster : Roster) (list : List Token) : Roster := list.foldl step roster

/-- The pass can be made over two lists one after the other. -/
@[simp] theorem run_append (roster : Roster) (list later : List Token) :
    roster.run (list ++ later) = (roster.run list).run later := List.foldl_append

/-- The pass sees the kinds of tokens and the literals of numbers only. -/
theorem run_eq_of_essence (roster : Roster) {list other : List Token}
    (same : list.map Token.essence = other.map Token.essence) :
    roster.run list = roster.run other := by
  refine Token.foldl_eq_of_essence (fun roster token other same => ?_) roster same
  rw [step, step, Token.nodeKind?_eq_of_essence same, (Token.essence_eq_iff.mp same).1]

/-! ### The pass over a tree -/

/-- What the pass finds out about a row. -/
def entry (slot : Slot) : Kind × Option Nat := (slot.kind, slot.parent)

mutual

/-- The pass over a tree's tokens adds the rows of the tree below the innermost open
group, and in the end the same groups are open.

Proof: induction on the tree. The opening parenthesis of a group adds the group's
own row and makes it the innermost one while its children are taken. -/
theorem run_tokens (tree : Tree) (bare : tree.hasBareLeaves = true) (roster : Roster) :
    roster.run tree.tokens = ⟨roster.opened, roster.nodes ++
      (slotsFrom (some (roster.opened.headD 0)) (roster.nodes.length + 1) tree).map entry⟩ := by
  match tree with
  | .node (.number literal) children | .node (.operator sign) children =>
    obtain rfl : children = [] := List.isEmpty_iff.mp bare
    rfl
  | .node .group children =>
    let number := roster.nodes.length + 1
    let row : Kind × Option Nat := (.group, some (roster.opened.headD 0))
    have inside := run_tokensAll children bare ⟨number :: roster.opened, roster.nodes ++ [row]⟩
    rw [tokens, run, List.foldl_cons]
    change run ⟨number :: roster.opened, roster.nodes ++ [row]⟩ _ = _
    rw [run_append, inside, slotsFrom]
    simp [run, step, restack, Token.nodeKind?, Token.closeParen, entry, number, row]

/-- So does the pass over the tokens of several trees. -/
theorem run_tokensAll (trees : List Tree) (bare : haveBareLeaves trees = true)
    (roster : Roster) :
    roster.run (tokensAll trees) = ⟨roster.opened, roster.nodes ++
      (slotsBelow (roster.opened.headD 0) (roster.nodes.length + 1) trees).map entry⟩ := by
  match trees with
  | [] => simp [tokensAll, run, slotsBelow]
  | tree :: later =>
    rw [haveBareLeaves, Bool.and_eq_true] at bare
    rw [tokensAll, run_append, run_tokens tree bare.1 roster, run_tokensAll later bare.2, slotsBelow]
    simp [length_slotsFrom, Nat.add_right_comm]

end

/-- The pass over a tree without its outermost parentheses comes to the rows behind
the root's. -/
theorem run_flatten {children : List Tree} (bare : haveBareLeaves children = true) :
    start.run (tokensAll children) = ⟨[], (slotsBelow 0 1 children).map entry⟩ :=
  run_tokensAll children bare start

/-! ### The pass by position -/

/-- The parenthesis at `opening` is the one opened last among those that are open in
front of a position. -/
def Innermost (list : List Token) (opening position : Nat) : Prop :=
  Encloses list opening position ∧ ∀ other, Encloses list other position → other ≤ opening

/-- The token at a position becomes the node with the given number. -/
def Numbers (list : List Token) (position number : Nat) : Prop :=
  ∃ index token, (Token.nodeTokens list)[index]? = some (token, position) ∧ number = index + 1

/-- The node below which the node of a token stands: the group whose parenthesis is
the innermost one open in front of the token, or the root if none is open. -/
def Owns (list : List Token) (owner position : Nat) : Prop :=
  (∃ opening, Innermost list opening position ∧ Numbers list opening owner) ∨
    (∀ opening, ¬ Encloses list opening position) ∧ owner = 0

/-- A token becomes a node of this kind with this parent. -/
def Becomes (list : List Token) (entry : Token × Nat) (kind : Kind) (parent : Option Nat) : Prop :=
  entry.1.nodeKind? = some kind ∧ ∃ owner, parent = some owner ∧ Owns list owner entry.2

/-- The top of a stack of positions is the innermost one. One that was opened later
would be less deep than the top and still enclose the position, against the depth
of the top. -/
theorem innermost_of_stack {list : List Token} {position top : Nat} {below : List Nat}
    (stack : Stack list position (top :: below)) : Innermost list top position := by
  have encloses : Encloses list top position := (stack.encloses top).mp List.mem_cons_self
  refine ⟨encloses, fun other around => ?_⟩
  rcases List.mem_cons.mp ((stack.encloses other).mpr around) with rfl | further
  · exact Nat.le_refl _
  · obtain ⟨topDepth, nested⟩ := stack.nested
    have lower := nested.depth_lt further
    by_contra later
    have above := encloses.2.2 other (Nat.le_of_lt around.1) (Nat.lt_of_not_le later)
    omega

/-- The number on top of the stack is that of the owner. -/
theorem owns_of_stack {list : List Token} {position : Nat} {positions numbers : List Nat}
    (stack : Stack list position positions)
    (opened : List.Forall₂ (Numbers list) positions numbers) :
    Owns list (numbers.headD 0) position := by
  cases opened with
  | nil =>
    refine .inr ⟨fun opening around => ?_, rfl⟩
    cases (stack.encloses opening).mpr around
  | cons here _ => exact .inl ⟨_, innermost_of_stack stack, here⟩

/-- Two stacks that correspond still do after a step. -/
theorem forall₂_restack {Same : Nat → Nat → Prop} {positions numbers : List Nat}
    (opened : List.Forall₂ Same positions numbers) {kind : Token.Kind} {position number : Nat}
    (here : kind = .openParen → Same position number) :
    List.Forall₂ Same (restack position positions kind) (restack number numbers kind) := by
  cases kind with
  | number | operator sign => exact opened
  | openParen => exact .cons (here rfl) opened
  | closeParen =>
    cases opened with
    | nil => exact .nil
    | cons _ below => exact below

/-- The state of the pass in front of a position. -/
structure Describes (list : List Token) (position : Nat) (positions : List Nat)
    (roster : Roster) : Prop where
  stack : Stack list position positions
  opened : List.Forall₂ (Numbers list) positions roster.opened
  nodes : List.Forall₂ (fun entry node => Becomes list entry node.1 node.2)
    (Token.nodeTokens (list.take position)) roster.nodes

/-- In front of the first token, no parenthesis is open and nothing has become a node. -/
theorem describes_start (list : List Token) : Describes list 0 [] start where
  stack := SignedSum.stack_start list
  opened := .nil
  nodes := .nil

/-- A token that becomes a node has the next number. -/
theorem Describes.numbers {list : List Token} {position : Nat} {positions : List Nat}
    {roster : Roster} {token : Token} (describes : Describes list position positions roster)
    (found : list[position]? = some token) (stays : token.kind ≠ .closeParen) :
    Numbers list position (roster.nodes.length + 1) := by
  refine ⟨roster.nodes.length, token, ?_, rfl⟩
  have longer := Token.nodeTokens_take_prefix list (position + 1)
  rw [Token.nodeTokens_take_succ found, if_neg stays] at longer
  obtain ⟨rest, whole⟩ := longer
  rw [← whole, ← describes.nodes.length_eq]
  simp

/-- Each step of the pass keeps its description. -/
theorem Describes.step {list : List Token} {position : Nat} {positions : List Nat}
    {roster : Roster} {token : Token} (describes : Describes list position positions roster)
    (found : list[position]? = some token) :
    Describes list (position + 1) (restack position positions token.kind) (roster.step token) where
  stack := describes.stack.step found
  opened := by
    refine forall₂_restack describes.opened fun isOpen => describes.numbers found ?_
    rw [isOpen]
    nofun
  nodes := by
    have owner := owns_of_stack describes.stack describes.opened
    rw [Token.nodeTokens_take_succ found]
    refine List.rel_append describes.nodes ?_
    cases kind : token.kind with
    | closeParen => simp [Token.nodeKind?, kind]
    | number | operator sign | openParen => simpa [Becomes, Token.nodeKind?, kind] using owner

/-- The pass over a whole list comes to the nodes that are described by position. -/
theorem becomes_of_run (list : List Token) :
    List.Forall₂ (fun entry node => Becomes list entry node.1 node.2)
      (Token.nodeTokens list) (start.run list).nodes := by
  have described := Token.foldl_keeps
    (fun position roster => ∃ positions, Describes list position positions roster)
    ⟨[], describes_start list⟩
    (fun position token roster found ⟨positions, describes⟩ => ⟨_, describes.step found⟩)
    list.length (Nat.le_refl _)
  obtain ⟨positions, describes⟩ := described
  have nodes := describes.nodes
  rwa [List.take_length] at nodes

end Roster

namespace Grammar

open Roster (Becomes)

/-- The rows behind the root's are the nodes of the tokens in order. -/
theorem rows_of_accepted {list : List Token} {tree : Tree}
    (accepted : Tree.ofTokens list = .ok tree) : ∃ root rows, tree.slots = root :: rows ∧
      root.kind = .group ∧ root.parent = none ∧
      List.Forall₂ (fun entry row => Becomes list entry row.kind row.parent)
        (Token.nodeTokens list) rows := by
  obtain ⟨wellFormed, spelled⟩ := spelled_of_accepted accepted
  obtain ⟨children, rfl, shape⟩ := wellFormed.exists_chain
  refine ⟨⟨.group, none, Tree.siblingNumbers 1 children⟩, Tree.slotsBelow 0 1 children,
    by rw [Tree.slots, Tree.slotsFrom], rfl, rfl, ?_⟩
  have nodes := Roster.becomes_of_run list
  have same : Roster.start.run list = Roster.start.run (Tree.tokensAll children) :=
    Roster.run_eq_of_essence Roster.start spelled
  rw [same, Roster.run_flatten (Tree.haveBareLeaves_of_isChain children shape),
    List.forall₂_map_right_iff] at nodes
  exact nodes

/-- A token list that is accepted has a tree whose nodes are its tokens, other than
the closing parentheses, in the order in which they stand. The arena that the rules
fill while they read has one row for each of these tokens behind the root's row: the
row has the kind of the token and, as parent, the number of the group whose
parenthesis is the innermost one that is open in front of the token, or that of the
root. However often a node was copied on the way, this is its number in the end. -/
theorem nodes_follow_tokens (list : List Token) (tree : Tree)
    (accepted : Tree.ofTokens list = .ok tree) :
    ∃ history arena root rows, Builds .expression (.new .group) tree.children history ∧
      history.tree = tree ∧ history.arena = some arena ∧ arena.slots = tree.slots ∧
      arena.slots = root :: rows ∧ root.kind = .group ∧ root.parent = none ∧
      rows.length = (Token.nodeTokens list).length ∧
      List.Forall₂ (fun entry row => Becomes list entry row.kind row.parent)
        (Token.nodeTokens list) rows := by
  obtain ⟨history, builds, whole⟩ := exists_builds accepted
  obtain ⟨root, rows, table, isGroup, noParent, nodes⟩ := rows_of_accepted accepted
  have built : history.arena = some (Arena.ofTree tree) := whole ▸ history.arena_eq_ofTree
  exact ⟨history, Arena.ofTree tree, root, rows, builds, whole, built, rfl, table, isGroup, noParent,
    nodes.length_eq.symm, nodes⟩

/-- A parenthesis that is closed owns nothing behind it: the last number hangs below
the root again. -/
theorem closed_group_left_behind :
    Tree.ofTokens [⟨.openParen, "["⟩, ⟨.number, "1"⟩, ⟨.closeParen, "]"⟩,
        ⟨.operator .subtract, "-"⟩, ⟨.number, "02"⟩] =
      .ok (.node .group [.node .group [.number "1"], .operator .subtract, .number "02"]) ∧
    ∃ history arena root rows, Builds .expression (.new .group)
        [.node .group [.number "1"], .operator .subtract, .number "02"] history ∧
      history.tree = .node .group [.node .group [.number "1"], .operator .subtract,
        .number "02"] ∧
      history.arena = some arena ∧
      arena.slots = [⟨.group, none, [1, 3, 4]⟩, ⟨.group, some 0, [2]⟩, ⟨.number "1", some 1, []⟩,
        ⟨.operator .subtract, some 0, []⟩, ⟨.number "02", some 0, []⟩] ∧
      arena.slots = root :: rows ∧ root.kind = .group ∧ root.parent = none ∧ rows.length = 4 ∧
      List.Forall₂ (fun entry row => Becomes [⟨.openParen, "["⟩, ⟨.number, "1"⟩,
          ⟨.closeParen, "]"⟩, ⟨.operator .subtract, "-"⟩, ⟨.number, "02"⟩] entry row.kind row.parent)
        [(⟨.openParen, "["⟩, 0), (⟨.number, "1"⟩, 1), (⟨.operator .subtract, "-"⟩, 3),
          (⟨.number, "02"⟩, 4)] rows := by
  have accepted : Tree.ofTokens [⟨.openParen, "["⟩, ⟨.number, "1"⟩, ⟨.closeParen, "]"⟩,
        ⟨.operator .subtract, "-"⟩, ⟨.number, "02"⟩] =
      .ok (.node .group [.node .group [.number "1"], .operator .subtract, .number "02"]) :=
    accepted_of_spelled (by decide) (by decide)
  obtain ⟨history, arena, root, rows, builds, whole, built, table, split, isGroup, noParent, count,
    nodes⟩ := nodes_follow_tokens _ _ accepted
  exact ⟨accepted, history, arena, root, rows, builds, whole, built, table.trans (by decide), split,
    isGroup, noParent, count, nodes⟩

end Grammar

end Reckoner
