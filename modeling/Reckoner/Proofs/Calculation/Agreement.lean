import Reckoner.Proofs.Calculation.Value
import Reckoner.Proofs.Grammar.Rejection

/-!
# Trees and their texts agree

A tree can be asked for its value directly, or be written down and read again. For
trees of any shape whose literals are numerals the two ways agree. If the tree has
a value, its text has the same one. If it has none, its text is scanned but not
parsed, and the token that the parse reports tells which error the tree has.
-/

namespace Reckoner

open Token (kindAt kindBefore)

/-- What the error of a tree has to do with the token at which its text is
rejected. -/
structure TellsError (tokens : List Token) (position : Nat) (error : EvalError) : Prop where
  missingOperator : error = .missingOperator ↔
    kindAt tokens position = some .number ∨ kindAt tokens position = some .openParen
  unexpectedOperator : error = .unexpectedOperator ↔
    ∃ sign, kindAt tokens position = some (.operator sign)
  emptyExpression : error = .emptyExpression ↔
    kindAt tokens position = some .closeParen ∧ kindBefore tokens position = some .openParen
  danglingOperator : error = .danglingOperator ↔
    kindAt tokens position = some .closeParen ∧
      ∃ sign, kindBefore tokens position = some (.operator sign)

/-- The kinds that explain an error tell it from the others. -/
theorem Tree.Explains.tellsError {error : EvalError} {front : List Token} {token : Token}
    (explains : Explains error (front.getLast?.map Token.kind) token.kind) (later : List Token) :
    TellsError (front ++ token :: later) front.length error := by
  have here := Token.kindAt_append_cons front token later
  have before := Token.kindBefore_append front (token :: later)
  generalize front.getLast?.map Token.kind = previous at explains before
  generalize token.kind = kind at explains here
  cases explains with
  | missingOperator begins => rcases begins with rfl | rfl <;> constructor <;> simp [here]
  | unexpectedOperator sign => constructor <;> simp [here]
  | emptyExpression => constructor <;> simp [here, before]
  | danglingOperator sign => constructor <;> simp [here, before]

/-- A tree with a value has a text with the same value. A tree without one has a text
that is rejected at a token, never for its bytes and never for its end, and this
token and the one in front of it tell the tree's error. -/
theorem text_agrees_with_value (tree : Tree) (numerals : tree.showsNumerals = true) :
    (∀ value, tree.value = .ok value → evaluate tree.text = .ok value) ∧
    ∀ error, tree.value = .error error → ∃ tokens position token,
      tokenize (bytesOf tree.text) = .ok tokens ∧ tokens[position]? = some token ∧
      Tree.ofText tree.text = .error (.grammatical (.unexpectedToken token position)) ∧
      TellsError tokens position error := by
  have scanned := Tree.tokenize_text numerals
  constructor
  · intro value worked
    have flawless := Tree.no_fault_of_value numerals worked
    obtain ⟨parsed, accepted⟩ := (Grammar.accepted_iff_no_fault _).mpr flawless
    rw [evaluate_of_accepted scanned accepted, SignedSum.ofTokens_tokens worked]
  · intro error failed
    obtain ⟨front, token, later, split, faulty, explains⟩ := Tree.fault_of_error numerals failed
    have rejected := (Grammar.rejected_iff_fault _ _).mpr faulty
    refine ⟨tree.tokens, front.length, token, scanned, ?_, ?_, ?_⟩
    · simp [split]
    · simp only [Tree.ofText, Tree.ofBytes, scanned, rejected]
    · rw [split]
      exact explains.tellsError later

/-- An empty group is told apart from other faults by its closing parenthesis. What
hangs below a number is not seen. -/
theorem empty_group_told :
    (Tree.node .group [.node (.number "01") [.number "x"], .operator .add, .emptyGroup]).value =
        .error .emptyExpression ∧
      ∃ tokens position token, tokenize (bytesOf "(01 + ())") = .ok tokens ∧
        tokens[position]? = some token ∧
        Tree.ofText "(01 + ())" = .error (.grammatical (.unexpectedToken token position)) ∧
        TellsError tokens position .emptyExpression := by
  have failed : (Tree.node .group [.node (.number "01") [.number "x"], .operator .add,
      .emptyGroup]).value = .error .emptyExpression := rfl
  exact ⟨failed, (text_agrees_with_value _ (by decide)).2 .emptyExpression failed⟩

end Reckoner
