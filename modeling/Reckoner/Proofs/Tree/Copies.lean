import Reckoner.Proofs.Tree.Construction
import Reckoner.Tree.Workshop

/-!
# Copies of rows

A tree that is copied into another one takes its rows along. They stand behind the rows
that were there before, in the order they had, and every number in them is raised by
the same amount: by the number of rows that were there, or by one less if the copy leaves
out the root's row. Of the rows that were there, only the root's changes, which lists the
new children.

Grafts open rows, fill them and list them at different times. That all this comes to a
shift rests on the preorder of rows: what is below a node has the numbers behind it,
wherever the node is put.
-/

namespace Reckoner

namespace Tree

/-- The row with its children's numbers raised by `distance`. What happens to the number of
the parent is given apart, because the parent may be a root that has no copy. -/
def Slot.moved (distance : Nat) (above : Nat → Nat) (slot : Slot) : Slot :=
  ⟨slot.kind, slot.parent.map above, slot.children.map (distance + ·)⟩

/-- Siblings that are numbered from further on have their numbers raised. -/
theorem siblingNumbers_add (distance first : Nat) (trees : List Tree) :
    siblingNumbers (distance + first) trees =
      (siblingNumbers first trees).map (distance + ·) := by
  induction trees generalizing first with
  | nil => rfl
  | cons tree later inductionHypothesis =>
    rw [siblingNumbers, siblingNumbers, List.map_cons, Nat.add_assoc, inductionHypothesis]

mutual

/-- The rows of a tree that is numbered from further on. The parent's number may change as
it likes, as long as the numbers of the tree itself are raised. -/
theorem slotsFrom_add (distance : Nat) (above : Nat → Nat) (first : Nat)
    (raised : ∀ number, first ≤ number → above number = distance + number)
    (parent : Option Nat) (tree : Tree) :
    slotsFrom (parent.map above) (distance + first) tree =
      (slotsFrom parent first tree).map (Slot.moved distance above) := by
  obtain ⟨kind, children⟩ := tree
  -- What is below the root has larger numbers than the root, so these are raised as well.
  have below := slotsBelow_add distance above (first + 1)
    (fun number behind => raised number (Nat.le_of_succ_le behind)) first children
  rw [raised first (Nat.le_refl first)] at below
  rw [slotsFrom, slotsFrom, List.map_cons, Nat.add_assoc, below, siblingNumbers_add]
  rfl

/-- The rows of siblings that are numbered from further on are moved in the same way. -/
theorem slotsBelow_add (distance : Nat) (above : Nat → Nat) (first : Nat)
    (raised : ∀ number, first ≤ number → above number = distance + number)
    (parent : Nat) (trees : List Tree) :
    slotsBelow (above parent) (distance + first) trees =
      (slotsBelow parent first trees).map (Slot.moved distance above) := by
  match trees with
  | [] => rfl
  | tree :: later =>
    have head := slotsFrom_add distance above first raised (some parent) tree
    have rest := slotsBelow_add distance above (first + tree.size)
      (fun number behind => raised number (Nat.le_of_add_right_le behind)) parent later
    rw [Option.map_some] at head
    rw [slotsBelow, slotsBelow, List.map_append, head, ← rest, Nat.add_assoc]

end

/-- A tree's rows are the root's and those below it. -/
theorem slots_eq_cons (tree : Tree) :
    tree.slots = ⟨tree.kind, none, siblingNumbers 1 tree.children⟩ ::
      slotsBelow 0 1 tree.children := by
  obtain ⟨kind, children⟩ := tree
  rw [slots, slotsFrom]
  rfl

/-- The rows of a tree that got more children: the root lists them, and their rows stand
at the end. -/
theorem slots_append (tree : Tree) (forest : List Tree) :
    (tree.append forest).slots =
      Slot.adopt (siblingNumbers tree.size forest)
          ⟨tree.kind, none, siblingNumbers 1 tree.children⟩ ::
        (slotsBelow 0 1 tree.children ++ slotsBelow 0 tree.size forest) := by
  obtain ⟨kind, children⟩ := tree
  simp [append, slots, slotsFrom, Slot.adopt, siblingNumbers_append, slotsBelow_append, size,
    Tree.kind, Tree.children]

/-- A tree has one node more than there are rows below the root's. -/
theorem size_eq_succ (tree : Tree) : tree.size = (slotsBelow 0 1 tree.children).length + 1 := by
  rw [← length_slots, slots_eq_cons, List.length_cons]

/-- A tree that gets more children grows by their nodes. -/
theorem size_append (tree : Tree) (forest : List Tree) :
    (tree.append forest).size = tree.size + sizeAll forest := by
  rw [← length_slots, slots_append, size_eq_succ tree]
  simp only [List.length_cons, List.length_append, length_slotsBelow]
  omega

/-- The rows that were there stay, apart from the root's. -/
theorem slots_append_kept (tree : Tree) (forest : List Tree) {number : Nat}
    (behind : 0 < number) (inside : number < tree.size) :
    (tree.append forest).slots[number]? = tree.slots[number]? := by
  obtain ⟨number, rfl⟩ := Nat.exists_eq_succ_of_ne_zero (Nat.ne_of_gt behind)
  rw [size_eq_succ] at inside
  rw [slots_append, slots_eq_cons, List.getElem?_cons_succ, List.getElem?_cons_succ,
    List.getElem?_append_left (Nat.lt_of_succ_lt_succ inside)]

/-- Behind the rows that were there stand those of the new children. -/
theorem slots_append_new (tree : Tree) (forest : List Tree) (number : Nat) :
    (tree.append forest).slots[tree.size + number]? =
      (slotsBelow 0 tree.size forest)[number]? := by
  have place : tree.size + number = (slotsBelow 0 1 tree.children).length + number + 1 := by
    rw [size_eq_succ, Nat.add_right_comm]
  rw [slots_append, place, List.getElem?_cons_succ, List.getElem?_append_right (Nat.le_add_right _ _),
    Nat.add_sub_cancel_left]

/-- Pushing trees one by one appends them. -/
theorem foldl_push (tree : Tree) (forest : List Tree) :
    forest.foldl push tree = tree.append forest := by
  induction forest generalizing tree with
  | nil => rw [List.foldl_nil, append_nil]
  | cons child later inductionHypothesis =>
    rw [List.foldl_cons, inductionHypothesis, push_eq_append, append_append,
      List.singleton_append]

/-- Copying over the children of a group is pushing them one by one. -/
theorem extend_groupOf (tree : Tree) (forest : List Tree) :
    tree.extend (groupOf forest) = forest.foldl push tree := by
  rw [groupOf, foldl_push, foldl_push, extend_append_emptyGroup]

/-- To extend a tree is to append the other root's children. -/
theorem extend_eq_append (tree other : Tree) :
    tree.extend other = tree.append other.children := by
  cases tree
  rfl

/-- Trees are appended behind the root's children, and the root keeps its kind. -/
theorem append_eq_node (tree : Tree) (forest : List Tree) :
    tree.append forest = .node tree.kind (tree.children ++ forest) := by
  cases tree
  rfl

/-- The number of a child that was pushed is the first free one. -/
theorem lastChildNumber?_push (tree child : Tree) :
    (tree.push child).lastChildNumber? = some tree.size := by
  obtain ⟨kind, children⟩ := tree
  rw [push, lastChildNumber?, Tree.children, siblingNumbers_append, size]
  simp [siblingNumbers]

end Tree

namespace Arena

open Reckoner.Tree

/-- What a push of an arena does to the rows of another one. -/
structure Pushed (before child after : Arena) : Prop where
  /-- There is a new row for each of the child's. -/
  length : after.slots.length = before.slots.length + child.slots.length
  /-- No other row than the root's changes. -/
  kept : ∀ number, 0 < number → number < before.slots.length →
    after.slots[number]? = before.slots[number]?
  /-- The root lists the first new row. -/
  root : ∃ slot, before.slots[0]? = some slot ∧
    after.slots[0]? = some (slot.adopt [before.slots.length])
  /-- The child's root gets a parent. -/
  copiedRoot : ∃ slot, child.slots[0]? = some slot ∧
    after.slots[before.slots.length]? =
      some ⟨slot.kind, some 0, slot.children.map (before.slots.length + ·)⟩
  /-- The other rows of the child are moved. -/
  copied : ∀ number, 0 < number → after.slots[before.slots.length + number]? =
    child.slots[number]?.map (Slot.moved before.slots.length (before.slots.length + ·))

/-- What copying the children of another arena's root does to the rows of an arena. -/
structure Extended (before other after : Arena) : Prop where
  /-- There is a new row for each of the other's, except the root's. -/
  length : after.slots.length = before.slots.length + other.slots.length - 1
  /-- No other row than the root's changes. -/
  kept : ∀ number, 0 < number → number < before.slots.length →
    after.slots[number]? = before.slots[number]?
  /-- The root lists the copies of the other root's children. -/
  root : ∃ slot top, before.slots[0]? = some slot ∧ other.slots[0]? = some top ∧
    after.slots[0]? = some (slot.adopt (top.children.map (before.slots.length - 1 + ·)))
  /-- The rows below the other root are moved, and the root takes its place. -/
  copied : ∀ number, 0 < number → after.slots[before.slots.length - 1 + number]? =
    other.slots[number]?.map (Slot.moved (before.slots.length - 1) fun parent =>
      if parent = 0 then 0 else before.slots.length - 1 + parent)

/-- The same arena with another kind of root. -/
def withRootKind (arena : Arena) (kind : Kind) : Arena :=
  ⟨arena.slots.modify 0 fun slot => { slot with kind }⟩

/-- The rows of a tree's arena are those of the tree. -/
theorem slots_ofTree (tree : Tree) : (ofTree tree).slots = tree.slots := rfl

/-- With another kind of root, a tree's arena is that of the tree with this kind. -/
theorem withRootKind_ofTree (tree : Tree) (kind : Kind) :
    (ofTree tree).withRootKind kind = ofTree (.node kind tree.children) := by
  simp [withRootKind, ofTree, slots_eq_cons, Tree.kind, Tree.children]

/-- A push moves the rows of the child behind those of the tree. The rows below the child's
root are the same in both trees up to where their numbers begin. -/
theorem pushed_ofTree (tree child : Tree) :
    Pushed (ofTree tree) (ofTree child) (ofTree (tree.push child)) := by
  have rows : slotsBelow 0 tree.size [child] = slotsFrom (some 0) tree.size child := by
    simp [slotsBelow]
  simp only [push_eq_append]
  constructor <;> simp only [slots_ofTree, length_slots]
  case length => rw [size_append, sizeAll, sizeAll, Nat.add_zero]
  case kept => exact fun _ => slots_append_kept tree [child]
  case root =>
    refine ⟨_, by rw [slots_eq_cons]; rfl, ?_⟩
    rw [slots_append]
    rfl
  case copiedRoot =>
    refine ⟨_, by rw [slots_eq_cons]; rfl, ?_⟩
    have place := slots_append_new tree [child] 0
    obtain ⟨kind, children⟩ := child
    rw [Nat.add_zero, rows, slotsFrom, List.getElem?_cons_zero, siblingNumbers_add] at place
    exact place
  case copied =>
    intro number behind
    obtain ⟨number, rfl⟩ := Nat.exists_eq_succ_of_ne_zero (Nat.ne_of_gt behind)
    obtain ⟨kind, children⟩ := child
    have moved := slotsBelow_add tree.size (tree.size + ·) 1 (fun _ _ => rfl) 0 children
    rw [slots_append_new, rows, slotsFrom, slots_eq_cons, List.getElem?_cons_succ,
      List.getElem?_cons_succ, ← List.getElem?_map]
    exact congrArg (·[number]?) moved

/-- Copying over the children of a root moves the rows below it. They are numbered from one
less further on than by a push, since that root has no copy. -/
theorem extended_ofTree (tree other : Tree) :
    Extended (ofTree tree) (ofTree other) (ofTree (tree.extend other)) := by
  have start : tree.size - 1 + 1 = tree.size := Nat.sub_add_cancel tree.size_pos
  have numbers : siblingNumbers tree.size other.children =
      (siblingNumbers 1 other.children).map (tree.size - 1 + ·) := by
    rw [← siblingNumbers_add, start]
  simp only [extend_eq_append]
  constructor <;> simp only [slots_ofTree, length_slots]
  case length =>
    rw [size_append, size_eq_succ other, length_slotsBelow]
    rfl
  case kept => exact fun _ => slots_append_kept tree other.children
  case root =>
    refine ⟨_, _, by rw [slots_eq_cons]; rfl, by rw [slots_eq_cons]; rfl, ?_⟩
    rw [slots_append, numbers]
    rfl
  case copied =>
    intro number behind
    obtain ⟨number, rfl⟩ := Nat.exists_eq_succ_of_ne_zero (Nat.ne_of_gt behind)
    -- The root that has no copy hands its children to the root of the tree.
    have moved := slotsBelow_add (tree.size - 1)
      (fun parent => if parent = 0 then 0 else tree.size - 1 + parent) 1
      (fun number positive => if_neg (Nat.ne_of_gt positive)) 0 other.children
    rw [if_pos rfl, start] at moved
    have place : tree.size - 1 + (number + 1) = tree.size + number := by omega
    rw [place, slots_append_new, slots_eq_cons other, List.getElem?_cons_succ, moved,
      List.getElem?_map]

end Arena

/-! ## Trees under names -/

namespace Workshop

/-- A tree is found under the name that it was put under. -/
theorem get?_put_self (workshop : Workshop) (name : String) (tree : Tree) :
    (workshop.put name tree).get? name = some tree := by
  simp [put, get?]

/-- Only the name that a tree is put under has another tree than before. -/
theorem get?_put_of_ne (workshop : Workshop) {name other : String} (distinct : other ≠ name)
    (tree : Tree) : (workshop.put name tree).get? other = workshop.get? other := by
  obtain ⟨trees⟩ := workshop
  have unlike : (other == name) = false := beq_eq_false_iff_ne.mpr distinct
  simp only [put, get?, List.lookup_cons, unlike]
  induction trees with
  | nil => rfl
  | cons entry later inductionHypothesis =>
    obtain ⟨held, kept⟩ := entry
    by_cases same : held = name
    · subst held
      rw [List.filter_cons_of_neg (by simp), inductionHypothesis, List.lookup_cons, unlike]
    · rw [List.filter_cons_of_pos (by simpa using same), List.lookup_cons, List.lookup_cons,
        inductionHypothesis]

/-- A push is answered with the number of the copy's root. -/
theorem perform_push {workshop : Workshop} {target source : String} {tree other : Tree}
    (found : workshop.get? target = some tree) (given : workshop.get? source = some other) :
    workshop.perform (.push target source) =
      (.number tree.size, workshop.put target (tree.push other)) := by
  simp only [perform, growWith, found, given, Tree.lastChildNumber?_push, Option.getD_some]

/-- An extension is answered without a number, and the name gets the longer tree. -/
theorem perform_extend {workshop : Workshop} {target source : String} {tree other : Tree}
    (found : workshop.get? target = some tree) (given : workshop.get? source = some other) :
    workshop.perform (.extend target source) =
      (.done, workshop.put target (tree.extend other)) := by
  simp only [perform, growWith, found, given]

end Workshop

/-- Pushing and extending copy rows by a shift, whatever the kinds of the two roots are. A
push gives the copy's root the first free number and appends the whole other tree to the
root; the children of the other root are appended alone by an extension, which does not
depend on the kind of that root. To extend by a group is to push its parts one by one, down
to the rows. Of trees under names, only the one that is grown changes. -/
theorem Arena.copies_shift_rows (target source : Construction) :
    ∃ before copied, target.arena = some before ∧ before.slots = target.tree.slots ∧
      source.arena = some copied ∧ copied.slots = source.tree.slots ∧
      (∃ after, before.push copied = some (before.slots.length, after) ∧
        Pushed before copied after ∧ after.slots = (target.tree.push source.tree).slots ∧
        after.shape 0 =
          some (.node target.tree.kind (target.tree.children ++ [source.tree]))) ∧
      (∃ after, before.extend copied = some after ∧
        Extended before copied after ∧ after.slots = (target.tree.extend source.tree).slots ∧
        after.shape 0 =
          some (.node target.tree.kind (target.tree.children ++ source.tree.children)) ∧
        ∀ kind, before.extend (copied.withRootKind kind) = some after) ∧
      (∀ parts : List Construction, ∃ after,
        (Construction.extend target (.groupOf parts)).arena = some after ∧
        Construction.pushAll before parts = some after) ∧
      ∀ (workshop : Workshop) (left right : String),
        workshop.get? left = some target.tree → workshop.get? right = some source.tree →
        (workshop.perform (.push left right)).1 = .number before.slots.length ∧
        (workshop.perform (.push left right)).2.get? left =
          some (target.tree.push source.tree) ∧
        (workshop.perform (.extend left right)).2.get? left =
          some (target.tree.extend source.tree) ∧
        ∀ name, name ≠ left →
          (workshop.perform (.push left right)).2.get? name = workshop.get? name ∧
          (workshop.perform (.extend left right)).2.get? name = workshop.get? name := by
  have count : (ofTree target.tree).slots.length = target.tree.size := Tree.length_slots _
  refine ⟨ofTree target.tree, ofTree source.tree, target.arena_eq_ofTree, rfl,
    source.arena_eq_ofTree, rfl, ?_, ?_, ?_, ?_⟩
  · refine ⟨_, by rw [count, push_ofTree], pushed_ofTree _ _, rfl, ?_⟩
    rw [← Tree.append_eq_node, ← Tree.push_eq_append]
    exact shape_of_placed (Tree.placed_slots _)
  · refine ⟨_, extend_ofTree _ _, extended_ofTree _ _, rfl, ?_, ?_⟩
    · rw [← Tree.append_eq_node, ← Tree.extend_eq_append]
      exact shape_of_placed (Tree.placed_slots _)
    · intro kind
      rw [withRootKind_ofTree, extend_ofTree, Tree.extend_eq_append, Tree.extend_eq_append,
        Tree.children]
  · intro parts
    refine ⟨_, Construction.arena_eq_ofTree _, ?_⟩
    rw [Construction.pushAll_eq_ofTree, Construction.tree, Construction.tree,
      Tree.extend_groupOf]
  · intro workshop left right found given
    rw [Workshop.perform_push found given, Workshop.perform_extend found given, count]
    refine ⟨rfl, workshop.get?_put_self left _, workshop.get?_put_self left _, ?_⟩
    intro name distinct
    exact ⟨workshop.get?_put_of_ne distinct _, workshop.get?_put_of_ne distinct _⟩

/-- A tree with an operator as its root is copied into one with a number as its root, with
that operator and without it. -/
theorem Arena.operator_copied_into_number :
    ∃ before copied,
      (Construction.push (.new (.number "7")) (.new .group)).arena = some before ∧
      (Construction.push (.new (.operator .add)) (.groupOf [.new (.number "1")])).arena =
        some copied ∧
      (∃ after, before.push copied = some (before.slots.length, after) ∧
        after.slots = [⟨.number "7", none, [1, 2]⟩, ⟨.group, some 0, []⟩,
          ⟨.operator .add, some 0, [3]⟩, ⟨.group, some 2, [4]⟩, ⟨.number "1", some 3, []⟩]) ∧
      (∃ after, before.extend copied = some after ∧
        after.slots = [⟨.number "7", none, [1, 2]⟩, ⟨.group, some 0, []⟩,
          ⟨.group, some 0, [3]⟩, ⟨.number "1", some 2, []⟩]) ∧
      ∃ workshop : Workshop,
        workshop.get? "sum" = some (.node (.number "7") [.emptyGroup]) ∧
        workshop.get? "part" = some (.node (.operator .add) [.node .group [.number "1"]]) ∧
        (workshop.perform (.push "sum" "part")).1 = .number before.slots.length ∧
        (workshop.perform (.push "sum" "part")).2.get? "part" = workshop.get? "part" := by
  obtain ⟨before, copied, built, _, copiedBuilt, _, ⟨longer, pushed, _, pushedRows, _⟩,
      ⟨extended, extends_, _, extendedRows, _⟩, _, named⟩ :=
    copies_shift_rows (.push (.new (.number "7")) (.new .group))
      (.push (.new (.operator .add)) (.groupOf [.new (.number "1")]))
  let workshop : Workshop := ⟨[("sum", .node (.number "7") [.emptyGroup]),
    ("part", .node (.operator .add) [.node .group [.number "1"]])]⟩
  obtain ⟨answered, _, _, kept⟩ := named workshop "sum" "part" rfl rfl
  exact ⟨before, copied, built, copiedBuilt, ⟨longer, pushed, pushedRows.trans (by decide)⟩,
    ⟨extended, extends_, extendedRows.trans (by decide)⟩, workshop, rfl, rfl, answered,
    (kept "part" (by decide)).1⟩

end Reckoner
