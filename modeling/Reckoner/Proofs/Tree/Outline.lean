import Mathlib.Data.List.Forall2
import Reckoner.Proofs.Tree.Copies
import Reckoner.Tree.Text

/-!
# Outlines

An outline has one line for each row of a tree's arena, in the order of the rows. The
indentation of a line is worked out on the way down from the root, as the lines are
written; it is told as well by the way up, because a row is indented by as many steps as
there are links to parents above it.

A line can be read back as a depth and a kind, as long as no literal is taken for the
word of another kind. The lines then tell the tree, and it is put together from the last
line to the first: a node takes the trees behind it that stand one step deeper, up to the
first that does not.
-/

namespace Reckoner

/-- The lines of a text, each up to the newline that ends it. What stands behind the last
newline is left out. -/
def Lines.ofText (text : String) : List String :=
  (text.toList.splitOn '\n').dropLast.map String.ofList

/-- Lines that are written with a newline behind each of them are read back. -/
theorem Lines.ofText_join {lines : List String}
    (bare : ∀ line ∈ lines, '\n' ∉ line.toList) :
    ofText (String.join (lines.map (· ++ "\n"))) = lines := by
  have pieces : (String.join (lines.map (· ++ "\n"))).toList.splitOn '\n' =
      lines.map String.toList ++ [[]] := by
    induction lines with
    | nil => rfl
    | cons line later inductionHypothesis =>
      have first : '\n' ∉ line.toList := bare line List.mem_cons_self
      have rest := inductionHypothesis fun other member => bare other (List.mem_cons_of_mem _ member)
      rw [List.map_cons, String.join_cons, String.toList_append, String.toList_append,
        List.append_assoc]
      exact (List.splitOn_append_cons_self_of_not_mem first _).trans (congrArg (line.toList :: ·) rest)
  rw [ofText, pieces, List.dropLast_concat, List.map_map]
  simp [Function.comp_def]

namespace Tree

/-- The literal of a number. -/
def Kind.literal? : Kind → Option String
  | .number literal => some literal
  | .group | .operator _ => none

/-- The literals of a tree, those below numbers and operators included. -/
def literals (tree : Tree) : List String := tree.slots.filterMap fun slot => slot.kind.literal?

/-! ## Depths -/

mutual

/-- The nodes of a tree in preorder, each with its depth. -/
def levels (depth : Nat) : Tree → List (Nat × Kind)
  | .node kind children => (depth, kind) :: levelsAll (depth + 1) children

/-- The nodes of sibling trees. -/
def levelsAll (depth : Nat) : List Tree → List (Nat × Kind)
  | [] => []
  | tree :: later => levels depth tree ++ levelsAll depth later

end

mutual

/-- An outline has a line for each node. -/
theorem outlineLines_eq_map (depth : Nat) (tree : Tree) :
    outlineLines depth tree = (levels depth tree).map fun level => outlineLine level.1 level.2 := by
  obtain ⟨kind, children⟩ := tree
  rw [outlineLines, levels, List.map_cons, outlineLinesAll_eq_map (depth + 1) children]

/-- An outline of siblings has a line for each of their nodes. -/
theorem outlineLinesAll_eq_map (depth : Nat) (trees : List Tree) :
    outlineLinesAll depth trees =
      (levelsAll depth trees).map fun level => outlineLine level.1 level.2 := by
  match trees with
  | [] => rfl
  | tree :: later =>
    rw [outlineLinesAll, levelsAll, List.map_append, outlineLines_eq_map depth tree,
      outlineLinesAll_eq_map depth later]

end

end Tree

namespace Arena

open Reckoner.Tree

variable {arena : Arena}

/-- How many links to parents lead from a row to one without a parent, if there are less
than `steps`. -/
def depthWithin (arena : Arena) : Nat → Nat → Option Nat
  | 0, _ => none
  | steps + 1, number => do
    let slot ← arena.slots[number]?
    match slot.parent with
    | none => some 0
    | some owner => (arena.depthWithin steps owner).map (· + 1)

/-- The distance of a row from the root. -/
def depth (arena : Arena) (number : Nat) : Option Nat :=
  arena.depthWithin arena.slots.length number

/-- The lines for a node and what is below it, which are written by going from a node to
the children that its row lists, each time one step deeper. -/
def outlineLines (arena : Arena) (number : Nat) : Option (List String) :=
  (arena.fold (fun _ kind below depth =>
    outlineLine depth kind :: below.flatMap fun lines => lines (depth + 1)) number).map (· 0)

/-- More steps lead to the same root. -/
theorem depthWithin_mono {steps more number depth : Nat}
    (found : arena.depthWithin steps number = some depth) (enough : steps ≤ more) :
    arena.depthWithin more number = some depth := by
  induction steps generalizing more number depth with
  | zero => cases found
  | succ steps inductionHypothesis =>
    obtain ⟨more, rfl⟩ := Nat.exists_eq_add_of_le' (Nat.le_of_add_left_le enough)
    rw [depthWithin] at found ⊢
    cases row : arena.slots[number]? with
    | none => simp [row] at found
    | some slot =>
      cases above : slot.parent with
      | none => simpa [row, above] using found
      | some owner =>
        simp only [row, above, Option.bind_eq_bind, Option.bind_some, Option.map_eq_some_iff]
          at found ⊢
        obtain ⟨lower, led, rfl⟩ := found
        exact ⟨lower, inductionHypothesis led (Nat.le_of_succ_le_succ enough), rfl⟩

/-- A row has the given level: its kind, and the depth that the links to parents tell. -/
def Stands (arena : Arena) (level : Nat × Kind) (number : Nat) : Prop :=
  ∃ slot, arena.slots[number]? = some slot ∧ slot.kind = level.2 ∧
    arena.depthWithin (number + 1) number = some level.1

mutual

/-- The nodes of a placed tree stand in its rows, in order.

Proof: induction along the tree. The depth of its root is given, because the links from
there lead out of the tree. A child is linked to a row in front of it, whose depth is one
less, and no more steps are left than there are rows in front. -/
theorem levels_stand {above : Option Nat} {first depth : Nat} {tree : Tree}
    (placed : Placed arena.slots above first tree)
    (deep : arena.depthWithin (first + 1) first = some depth) :
    List.Forall₂ arena.Stands (levels depth tree) (List.range' first tree.size) := by
  obtain ⟨kind, children⟩ := tree
  obtain ⟨row, below⟩ := placed_node_iff.mp placed
  rw [levels, size, Nat.add_comm 1, List.range'_succ]
  exact .cons ⟨_, row, rfl, deep⟩ (levelsAll_stand below (Nat.lt_succ_self first) deep)

/-- The nodes of siblings stand in their rows, in order, one step deeper than the row that
lists them. -/
theorem levelsAll_stand {owner first depth : Nat} {trees : List Tree}
    (placed : PlacedAll arena.slots owner first trees) (behind : owner < first)
    (deep : arena.depthWithin (owner + 1) owner = some depth) :
    List.Forall₂ arena.Stands (levelsAll (depth + 1) trees) (List.range' first (sizeAll trees)) := by
  match trees with
  | [] => exact .nil
  | tree :: later =>
    obtain ⟨here, further⟩ := placedAll_cons_iff.mp placed
    have linked : arena.depthWithin (first + 1) first = some (depth + 1) := by
      rw [depthWithin, here.row]
      simp [depthWithin_mono deep behind]
    rw [levelsAll, sizeAll, ← List.range'_append_1]
    exact List.rel_append (levels_stand here linked)
      (levelsAll_stand further (Nat.lt_add_right tree.size behind) deep)

end

/-- The rows of a tree stand where its levels tell. -/
theorem levels_of_tree (tree : Tree) :
    List.Forall₂ (ofTree tree).Stands (levels 0 tree) (List.range' 0 tree.size) := by
  have placed : Placed (ofTree tree).slots none 0 tree := placed_slots tree
  apply levels_stand placed
  rw [depthWithin, placed.row]
  rfl

end Arena

namespace Tree

open Arena (ofTree)

/-- There is one level for each node. -/
@[simp] theorem length_levels (tree : Tree) : (levels 0 tree).length = tree.size := by
  simpa using (Arena.levels_of_tree tree).length_eq

/-- The level of a row has the depth that the links to parents tell, and the row's kind. -/
theorem exists_level {tree : Tree} {number : Nat} {slot : Slot}
    (found : tree.slots[number]? = some slot) :
    ∃ depth, (ofTree tree).depth number = some depth ∧
      (levels 0 tree)[number]? = some (depth, slot.kind) := by
  obtain ⟨inside, -⟩ := List.getElem?_eq_some_iff.mp found
  rw [length_slots] at inside
  have within : number < (levels 0 tree).length := by simpa using inside
  obtain ⟨row, here, kind, deep⟩ :=
    (Arena.levels_of_tree tree).get within (by simpa using inside)
  simp only [List.get_eq_getElem, List.getElem_range', Nat.one_mul, Nat.zero_add] at here kind deep
  cases found.symm.trans here
  refine ⟨(levels 0 tree)[number].1, Arena.depthWithin_mono deep ?_, ?_⟩
  · rw [Arena.slots_ofTree, length_slots]
    exact inside
  · rw [List.getElem?_eq_getElem within, kind]

/-- The literals of the levels are those of the tree. -/
theorem mem_literals_of_mem_levels {tree : Tree} {level : Nat × Kind}
    (member : level ∈ levels 0 tree) {literal : String} (number : level.2 = .number literal) :
    literal ∈ tree.literals := by
  obtain ⟨place, within, rfl⟩ := List.getElem_of_mem member
  have inside : place < tree.slots.length := by simpa using within
  obtain ⟨depth, _, found⟩ := exists_level (List.getElem?_eq_getElem inside)
  rw [List.getElem?_eq_getElem within, Option.some.injEq] at found
  have kind : tree.slots[place].kind = .number literal :=
    (congrArg Prod.snd found).symm.trans number
  exact List.mem_filterMap.mpr ⟨_, List.getElem_mem inside, by rw [kind]; rfl⟩

/-! ## Lines -/

/-- The line for a node has no newline in it unless a literal has one. -/
theorem newline_not_mem_outlineLine {depth : Nat} {kind : Kind}
    (bare : ∀ literal, kind = .number literal → '\n' ∉ literal.toList) :
    '\n' ∉ (outlineLine depth kind).toList := by
  have word : '\n' ∉ kind.outlineWord.toList := by
    cases kind with
    | group => decide
    | operator sign => cases sign <;> decide
    | number literal => exact bare literal rfl
  simp [outlineLine, word]

/-- The lines of an outline are read off its text. -/
theorem ofText_outline {tree : Tree} (bare : ∀ literal ∈ tree.literals, '\n' ∉ literal.toList) :
    Lines.ofText tree.outline = outlineLines 0 tree := by
  apply Lines.ofText_join
  intro line member
  rw [outlineLines_eq_map, List.mem_map] at member
  obtain ⟨level, within, rfl⟩ := member
  exact newline_not_mem_outlineLine fun literal number =>
    bare literal (mem_literals_of_mem_levels within number)

mutual

/-- The outline of a tree does not depend on its numbers. -/
theorem foldFrom_outlineLines (first : Nat) (tree : Tree) :
    foldFrom (fun _ kind below depth =>
      outlineLine depth kind :: below.flatMap fun lines => lines (depth + 1)) first tree =
      fun depth => outlineLines depth tree := by
  obtain ⟨kind, children⟩ := tree
  funext depth
  rw [foldFrom, outlineLines, foldBelow_outlineLines (first + 1) (depth + 1) children]

/-- The outline of siblings does not depend on their numbers. -/
theorem foldBelow_outlineLines (first depth : Nat) (trees : List Tree) :
    (foldBelow (fun _ kind below depth =>
      outlineLine depth kind :: below.flatMap fun lines => lines (depth + 1)) first trees).flatMap
        (fun lines => lines depth) = outlineLinesAll depth trees := by
  match trees with
  | [] => rfl
  | tree :: later =>
    rw [foldBelow, List.flatMap_cons, outlineLinesAll, foldFrom_outlineLines first tree,
      foldBelow_outlineLines (first + tree.size) depth later]

end

/-- The lines that are written on the way down through a tree's arena are those of the
tree's outline. -/
theorem outlineLines_ofTree (tree : Tree) :
    (ofTree tree).outlineLines 0 = some (outlineLines 0 tree) := by
  have placed : Placed (ofTree tree).slots none 0 tree := placed_slots tree
  rw [Arena.outlineLines, Arena.fold_of_placed _ placed, foldFrom_outlineLines]
  rfl

/-! ## Reading an outline -/

/-- The kind that a word stands for. Other words than those of groups and operators are
literals. -/
def Kind.ofWord (word : String) : Kind :=
  if word = "group" then .group
  else if word = "+" then .operator .add
  else if word = "-" then .operator .subtract
  else .number word

/-- The depth and the kind that a line tells: one step for two spaces, and the word behind
the mark. -/
def readLine (line : String) : Nat × Kind :=
  ((line.toList.takeWhile (· = ' ')).length / 2,
    .ofWord (String.ofList ((line.toList.dropWhile (· = ' ')).drop 3)))

/-- Puts a node in front of trees with their depths. Those that follow one step deeper are
its children, up to the first that does not. -/
def gather (level : Nat × Kind) (pending : List (Nat × Tree)) : List (Nat × Tree) :=
  (level.1, .node level.2 ((pending.takeWhile (·.1 = level.1 + 1)).map Prod.snd)) ::
    pending.dropWhile (·.1 = level.1 + 1)

/-- The tree that a text is the outline of, where no literal is the word of another kind. -/
def ofOutline? (text : String) : Option Tree :=
  match ((Lines.ofText text).map readLine).foldr gather [] with
  | [(_, tree)] => some tree
  | _ => none

/-- A literal is told from the words of groups and operators. -/
theorem ofWord_outlineWord {kind : Kind}
    (told : ∀ literal, kind = .number literal → literal ∉ ["group", "+", "-"]) :
    Kind.ofWord kind.outlineWord = kind := by
  cases kind with
  | group => rfl
  | operator sign => cases sign <;> rfl
  | number literal =>
    have distinct := told literal rfl
    simp only [List.mem_cons, List.not_mem_nil, or_false, not_or] at distinct
    simp [Kind.ofWord, Kind.outlineWord, distinct]

/-- The line for a node is read back as its depth and kind. -/
theorem readLine_outlineLine (depth : Nat) {kind : Kind}
    (told : ∀ literal, kind = .number literal → literal ∉ ["group", "+", "-"]) :
    readLine (outlineLine depth kind) = (depth, kind) := by
  have characters : (outlineLine depth kind).toList =
      List.replicate (2 * depth) ' ' ++ '|' :: '-' :: ' ' :: kind.outlineWord.toList := by
    simp [outlineLine]
  have blanks : ∀ character ∈ List.replicate (2 * depth) ' ', decide (character = ' ') = true := by
    intro character member
    rw [List.eq_of_mem_replicate member]
    rfl
  rw [readLine, characters, List.takeWhile_append_of_pos blanks,
    List.dropWhile_append_of_pos blanks]
  simp [ofWord_outlineWord told]

/-- The levels of siblings are followed by nothing that stands as deep as their children. -/
theorem takeWhile_siblings {depth : Nat} (forest : List Tree) {rest : List (Nat × Tree)}
    (shallow : ∀ entry ∈ rest.head?, entry.1 ≤ depth) :
    (forest.map (depth + 1, ·) ++ rest).takeWhile (·.1 = depth + 1) =
        forest.map (depth + 1, ·) ∧
      (forest.map (depth + 1, ·) ++ rest).dropWhile (·.1 = depth + 1) = rest := by
  have deeper : ∀ entry ∈ forest.map (depth + 1, ·), decide (entry.1 = depth + 1) = true := by
    intro entry member
    obtain ⟨tree, _, rfl⟩ := List.mem_map.mp member
    simp
  rw [List.takeWhile_append_of_pos deeper, List.dropWhile_append_of_pos deeper]
  cases rest with
  | nil => simp
  | cons entry rest =>
    have level : entry.1 ≤ depth := shallow entry rfl
    have other : ¬ entry.1 = depth + 1 := by omega
    simp [other]

mutual

/-- A tree is put together from its levels, in front of trees that stand no deeper.

Proof: induction along the tree. The levels of its children come to the children, and the
root takes these and nothing else. -/
theorem foldr_gather_levels (depth : Nat) (tree : Tree) {rest : List (Nat × Tree)}
    (shallow : ∀ entry ∈ rest.head?, entry.1 ≤ depth) :
    (levels depth tree).foldr gather rest = (depth, tree) :: rest := by
  obtain ⟨kind, children⟩ := tree
  have below := foldr_gather_levelsAll (depth + 1) children
    fun entry first => Nat.le_succ_of_le (shallow entry first)
  obtain ⟨taken, left⟩ := takeWhile_siblings children shallow
  rw [levels, List.foldr_cons, below, gather, taken, left]
  simp [Function.comp_def]

/-- Siblings are put together from their levels, one behind the other. -/
theorem foldr_gather_levelsAll (depth : Nat) (forest : List Tree) {rest : List (Nat × Tree)}
    (shallow : ∀ entry ∈ rest.head?, entry.1 ≤ depth) :
    (levelsAll depth forest).foldr gather rest = forest.map (depth, ·) ++ rest := by
  match forest with
  | [] => rfl
  | tree :: later =>
    have behind := foldr_gather_levelsAll depth later shallow
    rw [levelsAll, List.foldr_append, behind, foldr_gather_levels depth tree, List.map_cons,
      List.cons_append]
    cases later with
    | nil => exact shallow
    | cons next others => simp

end

/-- An outline is read back: its lines tell the levels of the tree, and the levels tell the
tree. -/
theorem ofOutline?_outline {tree : Tree}
    (bare : ∀ literal ∈ tree.literals, '\n' ∉ literal.toList)
    (told : ∀ literal ∈ tree.literals, literal ∉ ["group", "+", "-"]) :
    ofOutline? tree.outline = some tree := by
  have lines : (Lines.ofText tree.outline).map readLine = levels 0 tree := by
    rw [ofText_outline bare, outlineLines_eq_map, List.map_map]
    refine (List.map_congr_left fun level member => ?_).trans (List.map_id _)
    exact readLine_outlineLine level.1 fun literal number =>
      told literal (mem_literals_of_mem_levels member number)
  rw [ofOutline?, lines, foldr_gather_levels 0 tree (by simp)]

/-- Where no literal has a line break, an outline has one line for each row of a tree's arena:
two spaces for each link to a parent above the row, the mark, and the word for the row's kind.
These are the lines that are written on the way down through the lists of children. Where
moreover no literal is the word of a group or an operator, the outline is read back, so that
trees with the same outline are the same. -/
theorem outline_determines_tree :
    (∀ construction : Construction,
      (∀ literal ∈ construction.tree.literals, '\n' ∉ literal.toList) →
      ∃ arena lines, construction.arena = some arena ∧ arena.outlineLines 0 = some lines ∧
        construction.tree.outline = String.join (lines.map (· ++ "\n")) ∧
        Lines.ofText construction.tree.outline = lines ∧
        lines.length = arena.slots.length ∧
        ∀ number slot, arena.slots[number]? = some slot →
          ∃ depth, arena.depth number = some depth ∧
            lines[number]? = some (String.ofList (List.replicate (2 * depth) ' ') ++ "|- " ++
              slot.kind.outlineWord)) ∧
    (∀ tree : Tree,
      (∀ literal ∈ tree.literals, '\n' ∉ literal.toList ∧ literal ∉ ["group", "+", "-"]) →
      ofOutline? tree.outline = some tree) ∧
    ∀ tree other : Tree,
      (∀ literal ∈ tree.literals ++ other.literals,
        '\n' ∉ literal.toList ∧ literal ∉ ["group", "+", "-"]) →
      (tree.outline = other.outline ↔ tree.same other = true) := by
  have reads : ∀ tree : Tree,
      (∀ literal ∈ tree.literals, '\n' ∉ literal.toList ∧ literal ∉ ["group", "+", "-"]) →
      ofOutline? tree.outline = some tree := by
    intro tree plain
    exact ofOutline?_outline (fun literal member => (plain literal member).1)
      fun literal member => (plain literal member).2
  refine ⟨?_, reads, ?_⟩
  · intro construction bare
    refine ⟨_, _, construction.arena_eq_ofTree, outlineLines_ofTree construction.tree, rfl,
      ofText_outline bare, ?_, ?_⟩
    · rw [outlineLines_eq_map, List.length_map, length_levels, Arena.slots_ofTree, length_slots]
    · intro number slot found
      obtain ⟨depth, deep, level⟩ := exists_level found
      refine ⟨depth, deep, ?_⟩
      rw [outlineLines_eq_map, List.getElem?_map, level]
      rfl
  · intro tree other plain
    obtain ⟨treePlain, otherPlain⟩ := List.forall_mem_append.mp plain
    rw [same_iff_eq]
    constructor
    · intro outlines
      have read := reads tree treePlain
      rw [outlines, reads other otherPlain] at read
      exact (Option.some.inj read).symm
    · rintro rfl
      rfl

/-- Below a number there is a literal that looks like a line itself. -/
theorem outline_of_number_with_child :
    let history := Construction.push (.new .group)
      (.push (.new (.number "1")) (.new (.number "  |- 2")))
    let tree := Tree.node .group [.node (.number "1") [.number "  |- 2"]]
    let other := Tree.node .group [.number "1", .number "  |- 2"]
    (∃ arena lines, history.arena = some arena ∧ arena.depth 2 = some 2 ∧
      Lines.ofText history.tree.outline = lines ∧ lines[2]? = some "    |-   |- 2" ∧
      lines.length = 3) ∧
      ofOutline? tree.outline = some tree ∧
      (∀ literal ∈ tree.literals ++ other.literals,
        '\n' ∉ literal.toList ∧ literal ∉ ["group", "+", "-"]) ∧
      tree.outline ≠ other.outline := by
  intro history tree other
  have plain : ∀ literal ∈ tree.literals ++ other.literals,
      '\n' ∉ literal.toList ∧ literal ∉ ["group", "+", "-"] := by decide +kernel
  obtain ⟨arena, lines, built, _, _, read, count, rows⟩ :=
    outline_determines_tree.1 history (by decide +kernel)
  cases history.arena_eq_ofTree.symm.trans built
  obtain ⟨depth, deep, line⟩ := rows 2 ⟨.number "  |- 2", some 1, []⟩ rfl
  obtain rfl : 2 = depth := Option.some.inj deep
  refine ⟨⟨_, lines, built, deep, read, line, count⟩, ?_, plain, ?_⟩
  · exact outline_determines_tree.2.1 tree (by decide +kernel)
  · intro outlines
    have same := (outline_determines_tree.2.2 tree other plain).mp outlines
    exact absurd same (by decide)

/-- A literal that is the word of a group is not told from one. -/
example : (Tree.number "group").outline = emptyGroup.outline := rfl

end Tree

end Reckoner
