import Reckoner.Proofs.Calculation.Value
import Reckoner.Proofs.Tree.Shape

/-!
# Reading a tree's text again

A tree with a value can be written down and read again. What comes back is the
same tree in one more group, because the outermost group of a parsed tree has no
parentheses and those of the text become a group of their own. Literals come back
as they were, zeros in front included.

So the text tells such trees apart, and reading the text of a parsed tree over and
over puts group around group without changing anything inside.
-/

namespace Reckoner.Tree

/-- The tree that the text of a tree is read as. -/
def reread (tree : Tree) : Except ReadError Tree := ofText tree.text

/-- Reads the text again as often as given, each time that of the last tree. -/
def rereadTimes : Nat → Tree → Except ReadError Tree
  | 0, tree => .ok tree
  | count + 1, tree =>
    match tree.reread with
    | .ok again => rereadTimes count again
    | .error cause => .error cause

/-- The tree inside as many groups as given. -/
def wrapped : Nat → Tree → Tree
  | 0, tree => tree
  | count + 1, tree => groupOf [wrapped count tree]

/-- A tree with bare leaves and a value. -/
def Readable (tree : Tree) : Prop := tree.hasBareLeaves = true ∧ ∃ value, tree.value = .ok value

/-- A group of one operand has the value of the operand. -/
theorem value_groupOf_singleton (tree : Tree) : (groupOf [tree]).value = tree.value := by
  change groupValue [tree] = tree.value
  rw [groupValue]
  cases tree.value <;> rfl

/-- A group around a tree has bare leaves exactly if the tree has. -/
theorem hasBareLeaves_groupOf_singleton (tree : Tree) :
    (groupOf [tree]).hasBareLeaves = tree.hasBareLeaves := by
  change haveBareLeaves [tree] = tree.hasBareLeaves
  rw [haveBareLeaves, haveBareLeaves, Bool.and_true]

/-- A readable tree stays readable in a group of its own. -/
theorem Readable.groupOf_singleton {tree : Tree} (readable : tree.Readable) :
    (groupOf [tree]).Readable := by
  rwa [Readable, value_groupOf_singleton, hasBareLeaves_groupOf_singleton]

/-- The text of the trees of a chain is read as a group of them.

The scan finds the tokens of the trees, and these are what the group is flattened
to. -/
theorem ofText_textAll {forest : List Tree} (numerals : showsNumeralsAll forest = true)
    (chain : isChain forest = true) : ofText (textAll forest) = .ok (node .group forest) := by
  have scanned : tokenize (bytesOf (textAll forest)) = .ok (tokensAll forest) :=
    (reads_textAll forest numerals).tokenize
  have accepted : ofTokens (tokensAll forest) = .ok (node .group forest) :=
    Grammar.accepted_of_spelled (wellFormed_group.mpr chain) rfl
  exact ofText_eq_ok_iff.mpr ⟨_, scanned, accepted⟩

/-- The text of a readable tree is read as a group of the tree. -/
theorem Readable.reread {tree : Tree} (readable : tree.Readable) :
    tree.reread = .ok (groupOf [tree]) := by
  obtain ⟨bare, value, worked⟩ := readable
  obtain ⟨shape, numerals⟩ := isOperand_of_value tree bare worked
  have alone : showsNumeralsAll [tree] = true := by simp [showsNumeralsAll, numerals]
  have chain : isChain [tree] = true := by simp [isChain, isRest, shape]
  exact ofText_textAll alone chain

/-- Parsed trees are readable. -/
theorem readable_of_ofText {text : String} {tree : Tree} (parsed : ofText text = .ok tree) :
    tree.Readable := by
  obtain ⟨tokens, scanned, accepted⟩ := ofText_eq_ok_iff.mp parsed
  have wellFormed := (Grammar.spelled_of_accepted accepted).1
  exact ⟨hasBareLeaves_of_isOperand tree wellFormed.2, _, value_of_accepted scanned accepted⟩

/-- A group around a wrapped tree can as well be put around the tree first. -/
theorem wrapped_groupOf (count : Nat) (tree : Tree) :
    wrapped count (groupOf [tree]) = wrapped (count + 1) tree := by
  induction count with
  | zero => rfl
  | succ count inductionHypothesis =>
    rw [wrapped, inductionHypothesis]
    rfl

/-- Reading the text of a readable tree several times wraps the tree as many times, because
what is read is readable again. -/
theorem Readable.rereadTimes {tree : Tree} (readable : tree.Readable) (count : Nat) :
    tree.rereadTimes count = .ok (tree.wrapped count) := by
  induction count generalizing tree with
  | zero => rfl
  | succ count inductionHypothesis =>
    rw [Tree.rereadTimes, readable.reread]
    exact (inductionHypothesis readable.groupOf_singleton).trans
      (congrArg Except.ok (wrapped_groupOf count tree))

/-- The text of a tree with bare leaves and a value is read as the same tree in one
more group, which has the same value. Parsed trees are such trees; trees of this
kind with the same text are the same; and reading the text of a parsed tree again
and again wraps the tree in one group each time. -/
theorem reread_wraps :
    (∀ (tree : Tree) (value : Int), tree.hasBareLeaves = true → tree.value = .ok value →
      ∃ again, ofText tree.text = .ok again ∧ again.same (groupOf [tree]) = true ∧
        again.value = .ok value) ∧
    (∀ (text : String) (tree : Tree), ofText text = .ok tree →
      tree.hasBareLeaves = true ∧ ∃ value, tree.value = .ok value) ∧
    (∀ tree other : Tree, tree.Readable → other.Readable → tree.text = other.text →
      tree.same other = true) ∧
    ∀ (text : String) (tree : Tree) (count : Nat), ofText text = .ok tree →
      tree.rereadTimes count = .ok (tree.wrapped count) := by
  refine ⟨?_, ?_, ?_, ?_⟩
  · intro tree value bare worked
    have readable : tree.Readable := ⟨bare, value, worked⟩
    refine ⟨groupOf [tree], readable.reread, (same_iff_eq _ _).mpr rfl, ?_⟩
    rw [value_groupOf_singleton, worked]
  · intro text tree parsed
    exact readable_of_ofText parsed
  · intro tree other readable otherReadable sameText
    have again : tree.reread = other.reread := by rw [Tree.reread, sameText, Tree.reread]
    rw [readable.reread, otherReadable.reread] at again
    have groups : groupOf [tree] = groupOf [other] := Except.ok.inj again
    have alike : [tree] = [other] := congrArg children groups
    exact (same_iff_eq tree other).mpr (List.cons.inj alike).1
  · intro text tree count parsed
    exact (readable_of_ofText parsed).rereadTimes count

/-- Zeros in front of a literal and the parentheses around a single number are kept. -/
theorem zeros_and_parentheses_reread :
    let difference : Tree :=
      .node .group [.number "007", .operator .subtract, .node .group [.number "1"]]
    difference.hasBareLeaves = true ∧ difference.value = .ok 6 ∧
      ∃ again, ofText "(007 - (1))" = .ok again ∧ again.same (groupOf [difference]) = true ∧
        again.value = .ok 6 ∧ (again.hasBareLeaves = true ∧ ∃ value, again.value = .ok value) ∧
        again.rereadTimes 2 = .ok (again.wrapped 2) ∧ again.same again = true := by
  intro difference
  obtain ⟨wraps, parsedReadable, injective, repeated⟩ := reread_wraps
  have worked : difference.value = .ok 6 := rfl
  obtain ⟨again, parsed, same, value⟩ := wraps difference 6 (by decide) worked
  have readable : again.Readable := parsedReadable _ again parsed
  exact ⟨by decide, worked, again, parsed, same, value, readable, repeated _ again 2 parsed,
    injective again again readable readable rfl⟩

end Reckoner.Tree
