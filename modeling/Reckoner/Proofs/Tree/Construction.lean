import Reckoner.Proofs.Grammar.Acceptance
import Reckoner.Proofs.Tree.Arena

/-!
# Trees in the making

A construction is a history of a tree: which nodes were made and which trees were
pushed, copied over or grouped. It leads to a tree, and step by step to an arena.
Every history of a tree leads to the same arena, the one with the tree's rows, and
the rows of a tree are in preorder.

The rules of the grammar grow their trees by the same steps. `Builds` follows a
rule that accepts and records the nodes it makes and what it appends to what, so
what holds of all constructions holds of the trees that are parsed.
-/

namespace Reckoner

namespace Arena

open Reckoner.Tree

/-- The rows of an arena in preorder. -/
structure Preordered (arena : Arena) : Prop where
  /-- There is a first row, and it has no parent. -/
  root : ∃ slot, arena.slots[0]? = some slot ∧ slot.parent = none
  /-- Every other row has a parent in front of it. -/
  parent : ∀ number slot, arena.slots[number]? = some slot → 0 < number →
    ∃ owner, slot.parent = some owner ∧ owner < number
  /-- A row is listed once by its parent and by no other row. -/
  listed : ∀ owner slot, arena.slots[owner]? = some slot → ∀ number,
    slot.children.count number =
      if (arena.slots[number]?).bind Slot.parent = some owner then 1 else 0
  /-- Later children have larger numbers. -/
  increasing : ∀ (owner : Nat) (slot : Slot), arena.slots[owner]? = some slot →
    slot.children.Pairwise (· < ·)
  /-- A walk from the root visits the rows from the first to the last. -/
  walk : arena.walk 0 = some (List.range arena.slots.length)
  /-- What is below a row stands in one piece behind it. -/
  interval : ∀ number, number < arena.slots.length →
    ∃ count, arena.walk number = some (List.range' number count)
  /-- Every traversal that goes from a row to the children it lists ends. -/
  ends : ∀ (α : Type) (visit : Nat → Kind → List α → α) (number : Nat),
    number < arena.slots.length → ∃ result, arena.fold visit number = some result

/-- Every row of a tree's arena is the first of a placed subtree. Only the root's
is listed by no row. -/
theorem exists_part {tree : Tree} {number : Nat} {slot : Slot}
    (found : (ofTree tree).slots[number]? = some slot) :
    ∃ part, Placed (ofTree tree).slots slot.parent number part ∧
      (number = 0 ∧ slot.parent = none ∨
        ∃ owner, slot.parent = some owner ∧ owner < number ∧
          Listed (ofTree tree).slots owner number) := by
  obtain ⟨inside, -⟩ := List.getElem?_eq_some_iff.mp found
  have within : number < 0 + tree.size := by simpa [ofTree] using inside
  obtain ⟨above, part, placed, place⟩ := (placed_slots tree).subtree (Nat.zero_le number) within
  cases found.symm.trans placed.row
  refine ⟨part, placed, place.imp_right ?_⟩
  rintro ⟨owner, named, _, before, listed⟩
  exact ⟨owner, named, before, listed⟩

/-- What a row lists has that row as its parent. -/
theorem parent_of_listed {tree : Tree} {owner number : Nat} {slot : Slot}
    (found : (ofTree tree).slots[owner]? = some slot) (listed : number ∈ slot.children) :
    ((ofTree tree).slots[number]?).bind Slot.parent = some owner := by
  obtain ⟨part, placed, _⟩ := exists_part found
  have row := found.symm.trans placed.row
  rw [Option.some.inj row] at listed
  obtain ⟨child, below⟩ := placed.below.of_listed listed
  rw [below.row]
  rfl

/-- The child list of a row in a tree's arena is increasing. -/
theorem children_increasing {tree : Tree} {owner : Nat} {slot : Slot}
    (found : (ofTree tree).slots[owner]? = some slot) : slot.children.Pairwise (· < ·) := by
  obtain ⟨part, placed, _⟩ := exists_part found
  have row := found.symm.trans placed.row
  rw [Option.some.inj row]
  exact siblingNumbers_increasing (owner + 1) part.children

/-- What has a parent is listed by it. -/
theorem mem_children_of_parent {tree : Tree} {owner number : Nat} {slot : Slot}
    (found : (ofTree tree).slots[owner]? = some slot)
    (named : ((ofTree tree).slots[number]?).bind Slot.parent = some owner) :
    number ∈ slot.children := by
  obtain ⟨row, here, above⟩ := Option.bind_eq_some_iff.mp named
  obtain ⟨_, _, ⟨_, rootless⟩ | ⟨other, same, _, listing, there, listed⟩⟩ := exists_part here
  · rw [rootless] at above
    cases above
  · cases above.symm.trans same
    cases found.symm.trans there
    exact listed

/-- The rows of a tree are in preorder. All of this follows from where subtrees are placed:
each one fills a block of rows behind its own first row. -/
theorem ofTree_preordered (tree : Tree) : (ofTree tree).Preordered := by
  have whole : Placed (ofTree tree).slots none 0 tree := placed_slots tree
  have parts : ∀ number, number < (ofTree tree).slots.length →
      ∃ above part, Placed (ofTree tree).slots above number part := by
    intro number inside
    obtain ⟨part, placed, _⟩ := exists_part (List.getElem?_eq_getElem inside)
    exact ⟨_, part, placed⟩
  constructor
  case root => exact ⟨_, whole.row, rfl⟩
  case parent =>
    intro number slot found behind
    obtain ⟨_, _, ⟨atRoot, _⟩ | ⟨owner, named, before, _⟩⟩ := exists_part found
    · omega
    · exact ⟨owner, named, before⟩
  case listed =>
    intro owner slot found number
    have distinct : slot.children.Nodup := (children_increasing found).imp Nat.ne_of_lt
    rw [distinct.count]
    refine if_congr ?_ rfl rfl
    exact ⟨parent_of_listed found, mem_children_of_parent found⟩
  case increasing =>
    intro owner slot found
    exact children_increasing found
  case walk =>
    rw [walk_of_placed whole, List.range_eq_range', ofTree, length_slots]
  case interval =>
    intro number inside
    obtain ⟨above, part, placed⟩ := parts number inside
    exact ⟨part.size, walk_of_placed placed⟩
  case ends =>
    intro α visit number inside
    obtain ⟨above, part, placed⟩ := parts number inside
    exact ⟨foldFrom visit number part, fold_of_placed visit placed⟩

end Arena

/-! ## Histories -/

/-- A history of a tree. A copy of a tree is made by copying its arena. -/
inductive Construction where
  | new (kind : Tree.Kind)
  | groupOf (parts : List Construction)
  | push (target child : Construction)
  | extend (target other : Construction)
  | copy (original : Construction)

namespace Construction

mutual

/-- The tree that a history leads to. -/
def tree : Construction → Tree
  | .new kind => .node kind []
  | .groupOf parts => Tree.groupOf (trees parts)
  | .push target child => target.tree.push child.tree
  | .extend target other => target.tree.extend other.tree
  | .copy original => original.tree

/-- The trees that several histories lead to. -/
def trees : List Construction → List Tree
  | [] => []
  | part :: later => part.tree :: trees later

end

mutual

/-- The arena that a history leads to, if each of its steps has a result. -/
def arena : Construction → Option Arena
  | .new kind => some (Arena.new kind)
  | .groupOf parts => pushAll (Arena.new .group) parts
  | .push target child => do
    let before ← target.arena
    let copied ← child.arena
    let grown ← before.push copied
    some grown.2
  | .extend target other => do
    let before ← target.arena
    let copied ← other.arena
    before.extend copied
  | .copy original => original.arena

/-- Pushes the arenas of several histories one after the other. -/
def pushAll (group : Arena) : List Construction → Option Arena
  | [] => some group
  | part :: later => do
    let copied ← part.arena
    let grown ← group.push copied
    pushAll grown.2 later

end

mutual

/-- Every history of a tree leads to the arena with the tree's rows. -/
theorem arena_eq_ofTree (construction : Construction) :
    construction.arena = some (Arena.ofTree construction.tree) := by
  match construction with
  | .new kind => rw [arena, tree, Arena.new_eq_ofTree]
  | .groupOf parts =>
    rw [arena, tree, Arena.new_eq_ofTree, Tree.groupOf]
    exact pushAll_eq_ofTree Tree.emptyGroup parts
  | .push target child =>
    rw [arena, tree, arena_eq_ofTree target, arena_eq_ofTree child]
    simp [Arena.push_ofTree]
  | .extend target other =>
    rw [arena, tree, arena_eq_ofTree target, arena_eq_ofTree other]
    simp [Arena.extend_ofTree]
  | .copy original => rw [arena, tree, arena_eq_ofTree original]

/-- Pushing the arenas of histories one by one leads to the arena of the tree onto which
their trees are pushed. -/
theorem pushAll_eq_ofTree (group : Tree) (parts : List Construction) :
    pushAll (Arena.ofTree group) parts =
      some (Arena.ofTree ((trees parts).foldl Tree.push group)) := by
  match parts with
  | [] => rw [pushAll, trees, List.foldl_nil]
  | part :: later =>
    rw [pushAll, trees, List.foldl_cons, arena_eq_ofTree part]
    simp only [Option.bind_eq_bind, Option.bind_some, Arena.push_ofTree]
    exact pushAll_eq_ofTree (group.push part.tree) later

end

end Construction

/-! ## Histories of parsed trees -/

namespace Grammar

/-- `Builds rule given forest result`: a rule that gets the tree with the history
`given` and appends `forest` to it does so with the steps that `result` has more
than `given`. -/
inductive Builds : Rule → Construction → List Tree → Construction → Prop where
  /-- A number is pushed onto a copy of the tree. -/
  | number {given : Construction} {literal : String} :
      Builds .operand given [.number literal] (.push (.copy given) (.new (.number literal)))
  /-- An expression in parentheses is built in a group of its own, which is pushed
  onto a copy of the tree. -/
  | parenthesized {given inner : Construction} {forest : List Tree}
      (inside : Builds .expression (.new .group) forest inner) :
      Builds .operand given [.node .group forest] (.push (.copy given) inner)
  /-- A chain that ends here appends nothing. -/
  | ended {given : Construction} : Builds .chain given [] given
  /-- An operator and its operand are built in a group of their own, whose children
  are copied over. -/
  | linked {given link result : Construction} {sign : Sign} {forest later : List Tree}
      (step : Builds .operand (.push (.new .group) (.new (.operator sign))) forest link)
      (rest : Builds .chain (.extend given link) later result) :
      Builds .chain given (.operator sign :: forest ++ later) result
  /-- An expression is its first operand and the chain behind it. -/
  | led {given longer result : Construction} {forest later : List Tree}
      (lead : Builds .operand given forest longer) (rest : Builds .chain longer later result) :
      Builds .expression given (forest ++ later) result

/-- A history has the tree that its rule was given, with the forest appended. -/
theorem Builds.tree_eq {rule : Rule} {given result : Construction} {forest : List Tree}
    (builds : Builds rule given forest result) : result.tree = given.tree.append forest := by
  induction builds with
  | number => simp [Construction.tree, Tree.number]
  | parenthesized inside inductionHypothesis =>
    simp [Construction.tree, inductionHypothesis, Tree.append]
  | ended => rw [Tree.append_nil]
  | @linked given link result sign forest later step rest stepHypothesis restHypothesis =>
    have fresh : link.tree = Tree.emptyGroup.append (.operator sign :: forest) := by
      rw [stepHypothesis]
      simp [Construction.tree, Tree.append, Tree.emptyGroup, Tree.operator]
    rw [restHypothesis, Construction.tree, fresh, Tree.extend_append_emptyGroup,
      Tree.append_append]
  | led lead rest leadHypothesis restHypothesis =>
    rw [restHypothesis, leadHypothesis, Tree.append_append]

/-- Whatever a rule appends to, it does so by building.

Proof: induction on the run. There is one step of building for each way in which a rule
accepts. -/
theorem Run.builds {tokens : Array Token} {around : List Nat} {rule : Rule}
    {reading after : Reading tokens} {forest : List Tree}
    (run : Run around rule reading (.ok forest) after) (given : Construction) :
    ∃ result, Builds rule given forest result := by
  generalize accepted : Except.ok forest = answer at run
  induction run generalizing forest given with
  | number => 
    cases accepted
    exact ⟨_, .number⟩
  | closed next kind inside found closes inductionHypothesis =>
    cases accepted
    obtain ⟨inner, builds⟩ := inductionHypothesis (.new .group) rfl
    exact ⟨_, .parenthesized builds⟩
  | exhausted | noOperator | operatorAtEnd | linkRejected =>
    cases accepted
    exact ⟨given, .ended⟩
  | linked next isSign link rest linkHypothesis restHypothesis =>
    cases accepted
    obtain ⟨longer, step⟩ := linkHypothesis (.push (.new .group) (.new (.operator _))) rfl
    obtain ⟨result, builds⟩ := restHypothesis (.extend given longer) rfl
    exact ⟨result, .linked step builds⟩
  | led lead rest leadHypothesis restHypothesis =>
    cases accepted
    obtain ⟨longer, step⟩ := leadHypothesis given rfl
    obtain ⟨result, builds⟩ := restHypothesis longer rfl
    exact ⟨result, .led step builds⟩
  | stray | openAtEnd | insideRejected | unclosed | leadRejected => cases accepted

/-- A token list that is accepted has a tree that the rules built in a new group. -/
theorem exists_builds {tokens : List Token} {tree : Tree}
    (accepted : Tree.ofTokens tokens = .ok tree) :
    ∃ history, Builds .expression (.new .group) tree.children history ∧ history.tree = tree := by
  obtain ⟨forest, after, rfl, run, _⟩ := run_of_accepted accepted
  obtain ⟨history, builds⟩ := run.builds (.new .group)
  exact ⟨history, builds, builds.tree_eq⟩

end Grammar

/-- Every history of a tree, also one in which a tree is pushed into its own copy,
leads to an arena whose rows are the tree's rows in preorder. The tree of every
token list that is accepted has a history, whose steps are those of the rules. -/
theorem Arena.constructed_in_preorder :
    (∀ construction : Construction, ∃ arena, construction.arena = some arena ∧
      arena.Preordered ∧ arena.slots = construction.tree.slots ∧
      arena.shape 0 = some construction.tree) ∧
    (∀ tokens tree, Tree.ofTokens tokens = .ok tree → ∃ construction,
      Grammar.Builds .expression (.new .group) tree.children construction ∧
      construction.tree = tree) := by
  constructor
  · intro construction
    refine ⟨Arena.ofTree construction.tree, construction.arena_eq_ofTree, ?_, rfl, ?_⟩
    · exact Arena.ofTree_preordered construction.tree
    · exact Arena.shape_of_placed (Tree.placed_slots construction.tree)
  · intro tokens tree accepted
    exact Grammar.exists_builds accepted

/-- A group is pushed into itself by way of a copy, and a number is parsed. -/
theorem Arena.own_copy_in_preorder :
    (∃ arena, (Construction.push (.groupOf [.new (.number "1")])
          (.copy (.groupOf [.new (.number "1")]))).arena = some arena ∧ arena.Preordered ∧
        arena.slots = [⟨.group, none, [1, 2]⟩, ⟨.number "1", some 0, []⟩,
          ⟨.group, some 0, [3]⟩, ⟨.number "1", some 2, []⟩]) ∧
      Tree.ofTokens [⟨.number, "7"⟩] = .ok (.node .group [.number "7"]) ∧
      ∃ construction, Grammar.Builds .expression (.new .group) [.number "7"] construction ∧
        construction.tree = .node .group [.number "7"] := by
  have accepted : Tree.ofTokens [⟨.number, "7"⟩] = .ok (.node .group [.number "7"]) :=
    Grammar.accepted_of_spelled (by decide) (by decide)
  obtain ⟨arena, built, ordered, rows, _⟩ := Arena.constructed_in_preorder.1
    (.push (.groupOf [.new (.number "1")]) (.copy (.groupOf [.new (.number "1")])))
  exact ⟨⟨arena, built, ordered, rows.trans (by decide)⟩, accepted,
    Arena.constructed_in_preorder.2 _ _ accepted⟩

end Reckoner
