import Reckoner.Calculation
import Reckoner.Proofs.Grammar.Acceptance
import Reckoner.Proofs.SignedSum.Positions
import Reckoner.Proofs.Tree.Printing

/-!
# The value of a text

A text that is scanned and parsed always has a value. The literals that a scan
finds are numerals, and the trees that a parse returns have the shape that values
are worked out for, so neither can be at fault later on.

The value is the signed sum of the tokens. It can be told from the flat list of
them, although it is worked out on the tree.
-/

namespace Reckoner

/-- A text has a tree exactly if it is scanned and its tokens are accepted. -/
theorem Tree.ofText_eq_ok_iff {text : String} {tree : Tree} :
    ofText text = .ok tree ↔
      ∃ tokens, tokenize (bytesOf text) = .ok tokens ∧ ofTokens tokens = .ok tree := by
  rw [ofText, ofBytes]
  cases scanned : tokenize (bytesOf text) with
  | error cause => simp
  | ok tokens => cases accepted : ofTokens tokens <;> simp [accepted]

/-- The literals of a tree that is parsed from a scan are numerals. -/
theorem Tree.showsNumerals_of_accepted {bytes : List UInt8} {tokens : List Token} {tree : Tree}
    (scanned : tokenize bytes = .ok tokens) (accepted : ofTokens tokens = .ok tree) :
    tree.showsNumerals = true := by
  obtain ⟨wellFormed, spelled⟩ := Grammar.spelled_of_accepted accepted
  obtain ⟨children, rfl, _⟩ := wellFormed.exists_chain
  have literals : tokens.map Token.literal? = (tokensAll children).map Token.literal? := by
    have seconds := congrArg (List.map Prod.snd) spelled
    rwa [List.map_map, List.map_map] at seconds
  apply showsNumeralsAll_of_tokens children
  intro literal member
  rw [← literals] at member
  obtain ⟨token, within, isLiteral⟩ := List.mem_map.mp member
  obtain ⟨kind, text⟩ := token
  have wellFormedToken := Scan.isWellFormed_of_tokenize scanned within
  cases kind with
  | number =>
    cases isLiteral
    exact wellFormedToken
  | openParen | closeParen | operator sign => cases isLiteral

/-- A tree that is parsed from a scan has the signed sum of the tokens as value. -/
theorem Tree.value_of_accepted {bytes : List UInt8} {tokens : List Token} {tree : Tree}
    (scanned : tokenize bytes = .ok tokens) (accepted : ofTokens tokens = .ok tree) :
    tree.value = .ok (SignedSum.ofTokens tokens) := by
  obtain ⟨wellFormed, spelled⟩ := Grammar.spelled_of_accepted accepted
  have numerals := showsNumerals_of_accepted scanned accepted
  obtain ⟨value, worked⟩ := exists_value tree wellFormed numerals
  have flat := SignedSum.ofTokens_flatten wellFormed.1 worked
  rw [worked, ← flat, SignedSum.ofTokens, SignedSum.ofTokens,
    SignedSum.run_eq_of_essence SignedSum.start spelled]

/-- A text that is scanned and parsed has the signed sum of its tokens as value. -/
theorem evaluate_of_accepted {text : String} {tokens : List Token} {tree : Tree}
    (scanned : tokenize (bytesOf text) = .ok tokens) (accepted : Tree.ofTokens tokens = .ok tree) :
    evaluate text = .ok (SignedSum.ofTokens tokens) := by
  have value := Tree.value_of_accepted scanned accepted
  simp only [evaluate, Tree.ofText, Tree.ofBytes, scanned, accepted, value]

/-- No text fails for want of a value. A text has one exactly if it is scanned and
parsed, and it is the sum of all its numbers, each with the sign that the
subtractions in front of it and of the parentheses around it make. One pass over
the tokens with a stack of signs comes to the same value. -/
theorem evaluate_is_signed_sum (text : String) :
    (∀ cause, evaluate text ≠ .error (.noValue cause)) ∧
    ((∃ value, evaluate text = .ok value) ↔ ∃ tokens tree,
      tokenize (bytesOf text) = .ok tokens ∧ Tree.ofTokens tokens = .ok tree) ∧
    ∀ value, evaluate text = .ok value → ∃ tokens, tokenize (bytesOf text) = .ok tokens ∧
      value = SignedSum.byPosition tokens ∧ value = SignedSum.ofTokens tokens := by
  cases scanned : tokenize (bytesOf text) with
  | error cause =>
    have failed : evaluate text = .error (.unreadable (.lexical cause)) := by
      simp only [evaluate, Tree.ofText, Tree.ofBytes, scanned]
    simp [failed]
  | ok tokens =>
    cases accepted : Tree.ofTokens tokens with
    | error cause =>
      have failed : evaluate text = .error (.unreadable (.grammatical cause)) := by
        simp only [evaluate, Tree.ofText, Tree.ofBytes, scanned, accepted]
      simp [failed, accepted]
    | ok tree =>
      have worked := evaluate_of_accepted scanned accepted
      refine ⟨?_, ?_, ?_⟩
      · intro cause failed
        rw [worked] at failed
        cases failed
      · constructor
        · intro _
          exact ⟨tokens, tree, rfl, accepted⟩
        · intro _
          exact ⟨_, worked⟩
      · intro value found
        rw [worked] at found
        cases found
        exact ⟨tokens, rfl, SignedSum.ofTokens_eq_byPosition tokens, rfl⟩

/-- A subtraction in front of a parenthesis turns the sign of one inside around, and
leading zeros do not count. -/
theorem nested_subtraction_evaluated :
    evaluate "(1 - (2 - 03) + 4)" = .ok 6 ∧
      ∃ tokens, tokenize (bytesOf "(1 - (2 - 03) + 4)") = .ok tokens ∧
        6 = SignedSum.byPosition tokens ∧ 6 = SignedSum.ofTokens tokens := by
  let sum : Tree := .node .group [.number "1", .operator .subtract,
    .node .group [.number "2", .operator .subtract, .number "03"], .operator .add, .number "4"]
  have scanned : tokenize (bytesOf sum.text) = .ok sum.tokens := Tree.tokenize_text (by decide)
  have accepted : Tree.ofTokens sum.tokens = .ok (.node .group [sum]) :=
    Grammar.accepted_of_spelled (by decide) rfl
  have worked : evaluate "(1 - (2 - 03) + 4)" = .ok 6 := evaluate_of_accepted scanned accepted
  exact ⟨worked, (evaluate_is_signed_sum _).2.2 6 worked⟩

end Reckoner
