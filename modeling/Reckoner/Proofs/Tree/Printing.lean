import Reckoner.Proofs.Token.Spelling
import Reckoner.Proofs.Tree.Faults
import Reckoner.Tree.Text

/-!
# Reading a tree's text

The text of a tree, whatever its shape, is scanned to the tokens of the tree. Only
the literals have to be numerals. Neighbours are kept apart by a space, so that
two numbers side by side stay two numbers.
-/

namespace Reckoner.Tree

open Scan (Reads reads_nil reads_token)

mutual

/-- The text of a tree is read as its tokens. -/
theorem reads_text (tree : Tree) (numerals : tree.showsNumerals = true) :
    Reads (bytesOf tree.text) tree.tokens := by
  match tree with
  | .node (.number literal) _ =>
    have wellFormed : (Token.number literal).isWellFormed = true := numerals
    exact reads_token wellFormed
  | .node (.operator sign) _ =>
    have wellFormed : (Token.operator sign).isWellFormed = true := by cases sign <;> decide
    exact reads_token wellFormed
  | .node .group children =>
    have inside := reads_textAll children numerals
    have openWellFormed : Token.openParen.isWellFormed = true := rfl
    have closeWellFormed : Token.closeParen.isWellFormed = true := rfl
    have closeByte : bytesOf Token.closeParen.value = [0x29] := bytesOf_singleton ')' (by decide)
    have closing := reads_token closeWellFormed
    rw [closeByte] at closing
    have whole := (inside.append closing nofun rfl).behind_token openWellFormed nofun
    rw [← closeByte, ← bytesOf_append, ← bytesOf_append, ← String.append_assoc] at whole
    exact whole

/-- The text of siblings is read as their tokens, since a space keeps them apart. -/
theorem reads_textAll (forest : List Tree) (numerals : showsNumeralsAll forest = true) :
    Reads (bytesOf (textAll forest)) (tokensAll forest) := by
  match forest with
  | [] =>
    have empty : bytesOf (textAll []) = [] := bytesOf_of_ascii nofun
    rw [empty]
    exact reads_nil
  | [tree] =>
    simp only [showsNumeralsAll, Bool.and_true] at numerals
    rw [textAll, tokensAll, tokensAll, List.append_nil]
    exact reads_text tree numerals
  | tree :: next :: later =>
    rw [showsNumeralsAll, Bool.and_eq_true] at numerals
    have first := reads_text tree numerals.1
    have rest := reads_textAll (next :: later) numerals.2
    rw [textAll, bytesOf_append, bytesOf_append, List.append_assoc, bytesOf_space]
    exact first.append (rest.behind_separator rfl) nofun rfl

end

/-- The text of a tree is never rejected by the scan. -/
theorem tokenize_text {tree : Tree} (numerals : tree.showsNumerals = true) :
    tokenize (bytesOf tree.text) = .ok tree.tokens := (reads_text tree numerals).tokenize

end Reckoner.Tree
