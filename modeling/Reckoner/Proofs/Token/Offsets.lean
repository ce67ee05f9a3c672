import Reckoner.Proofs.Token.Concatenation

/-!
# Where tokens stand

A scan reports each token with the offset of its first byte. The bytes in front of
that offset, scanned on their own, make the tokens in front of this one and nothing
more, so the offset of a token can be told without looking at what follows it.
-/

namespace Reckoner.Scan

/-- What begins like bytes without a digit in front has none in front either. -/
theorem startsWithDigit_of_append {bytes more : List UInt8}
    (apart : startsWithDigit (bytes ++ more) = false) : startsWithDigit bytes = false := by
  cases bytes with
  | nil => rfl
  | cons byte rest => exact apart

/-- Each token of a scan has its text at its offset, and what is in front of it is
scanned to the tokens in front of it.

Proof: induction along the scan. What the scan goes past before it gets to the token
stands in front of it, and a run of digits is not prolonged by what was found behind
it. -/
theorem exists_place {offset : Nat} {bytes : List UInt8} {front later : List Lexeme}
    {lexeme : Lexeme} (found : (ofBytesAt offset bytes).lexemes = front ++ lexeme :: later) :
    ∃ before behind, bytes = before ++ (bytesOf lexeme.token.value ++ behind) ∧
      lexeme.offset = offset + before.length ∧ ofBytesAt offset before = ⟨front, none⟩ := by
  have nothing (offset : Nat) : ofBytesAt offset [] = ⟨[], none⟩ := by rw [ofBytesAt]
  fun_induction ofBytesAt offset bytes generalizing front with
  | case1 offset => simp at found
  | case2 offset byte rest separator inductionHypothesis =>
    obtain ⟨before, behind, split, place, scanned⟩ := inductionHypothesis found
    refine ⟨byte :: before, behind, by rw [split, List.cons_append], ?_, ?_⟩
    · rw [place, List.length_cons, Nat.add_right_comm, Nat.add_assoc]
    · rw [ofBytesAt_separator separator, scanned]
  | case3 offset byte rest separator digit digits =>
    rename_i inductionHypothesis
    have all : ∀ other ∈ digits, isDigit other = true := isDigit_of_mem_run digit rest
    have whole : byte :: rest = digits ++ rest.dropWhile isDigit := by
      simp [digits, List.takeWhile_append_dropWhile]
    cases front with
    | nil =>
      obtain ⟨rfl, _⟩ := List.cons.inj found
      refine ⟨[], rest.dropWhile isDigit, ?_, rfl, nothing offset⟩
      rw [whole, List.nil_append, Token.number, bytesOf_textOf_digits all]
    | cons first front =>
      obtain ⟨rfl, others⟩ := List.cons.inj found
      obtain ⟨before, behind, split, place, scanned⟩ := inductionHypothesis others
      have apart : startsWithDigit before = false :=
        startsWithDigit_of_append (split ▸ startsWithDigit_dropWhile rest)
      refine ⟨digits ++ before, behind, by rw [whole, split, List.append_assoc], ?_, ?_⟩
      · rw [place, List.length_append, Nat.add_assoc]
      · rw [ofBytesAt_digits (List.cons_ne_nil _ _) all offset apart, scanned]
        rfl
  | case4 offset byte rest separator digit token punctuation inductionHypothesis =>
    cases front with
    | nil =>
      obtain ⟨rfl, _⟩ := List.cons.inj found
      refine ⟨[], rest, ?_, rfl, nothing offset⟩
      rw [(spelled_of_punctuation punctuation).2]
      rfl
    | cons first front =>
      obtain ⟨rfl, others⟩ := List.cons.inj found
      obtain ⟨before, behind, split, place, scanned⟩ := inductionHypothesis others
      refine ⟨byte :: before, behind, by rw [split, List.cons_append], ?_, ?_⟩
      · rw [place, List.length_cons, Nat.add_right_comm, Nat.add_assoc]
      · rw [ofBytesAt_punctuation (Bool.eq_false_iff.mpr separator) (Bool.eq_false_iff.mpr digit)
          punctuation, scanned]
        rfl
  | case5 offset byte rest separator digit none => simp at found

/-- In a whole input, the offset of a token is the number of bytes in front of it. -/
theorem exists_front {bytes : List UInt8} {front later : List Lexeme} {lexeme : Lexeme}
    (found : (ofBytes bytes).lexemes = front ++ lexeme :: later) :
    ∃ before behind, bytes = before ++ (bytesOf lexeme.token.value ++ behind) ∧
      lexeme.offset = before.length ∧ tokenize before = .ok (front.map Lexeme.token) := by
  obtain ⟨before, behind, split, place, scanned⟩ := exists_place found
  have result : ofBytes before = ⟨front, none⟩ := scanned
  exact ⟨before, behind, split, place.trans (Nat.zero_add _), by
    simp only [tokenize, result, Scan.result, tokens]⟩

end Reckoner.Scan
