import Mathlib.Data.List.Induction
import Reckoner.Proofs.Text.Numeral
import Reckoner.Proofs.Token.Foreign
import Reckoner.Proofs.Token.Layout

/-!
# Where two inputs meet

The scan of two inputs in a row is told by the scans of both. A failure of the first
input is that of the whole, and one of the second is found further on. Otherwise the
tokens of the second follow those of the first.

Only where digits meet digits do the two inputs act on each other: the run of digits
that ends the first and the one that begins the second are one number.
-/

namespace Reckoner

open Scan

namespace Scan

/-! ### Runs of digits at the ends -/

/-- The run of digits at the end of an input is taken as far to the front as it goes. -/
theorem exists_last_run {bytes : List UInt8} (ends : endsWithDigit bytes = true) :
    ∃ before digits, bytes = before ++ digits ∧ digits ≠ [] ∧
      (∀ byte ∈ digits, isDigit byte = true) ∧ endsWithDigit before = false := by
  induction bytes using List.reverseRecOn with
  | nil => simp [endsWithDigit] at ends
  | append_singleton front last inductionHypothesis =>
    have digit : isDigit last = true := by simpa [endsWithDigit] using ends
    cases further : endsWithDigit front with
    | false => exact ⟨front, [last], rfl, List.cons_ne_nil _ _, by simpa using digit, further⟩
    | true =>
      obtain ⟨before, digits, rfl, _, all, begins⟩ := inductionHypothesis further
      refine ⟨before, digits ++ [last], List.append_assoc _ _ _, by simp, ?_, begins⟩
      intro byte member
      rcases List.mem_append.mp member with member | member
      · exact all byte member
      · rwa [List.mem_singleton.mp member]

/-- The run of digits at the start of an input is taken as far as it goes. -/
theorem exists_first_run {bytes : List UInt8} (begins : startsWithDigit bytes = true) :
    ∃ digits after, bytes = digits ++ after ∧ digits ≠ [] ∧
      (∀ byte ∈ digits, isDigit byte = true) ∧ startsWithDigit after = false := by
  cases bytes with
  | nil => simp [startsWithDigit] at begins
  | cons byte rest =>
    refine ⟨byte :: rest.takeWhile isDigit, rest.dropWhile isDigit, ?_, List.cons_ne_nil _ _,
      isDigit_of_mem_run begins rest, startsWithDigit_dropWhile rest⟩
    rw [List.cons_append, List.takeWhile_append_dropWhile]

/-! ### Failures -/

/-- What follows an input does not change its first foreign byte. -/
theorem FirstForeign.append {bytes : List UInt8} {position : Nat} {byte : UInt8}
    (first : FirstForeign bytes position byte) (more : List UInt8) :
    FirstForeign (bytes ++ more) position byte := by
  obtain ⟨front, later, rfl, place, foreign, earlier⟩ := firstForeign_iff.mp first
  exact firstForeign_iff.mpr
    ⟨front, later ++ more, by rw [List.append_assoc, List.cons_append], place, foreign, earlier⟩

/-- An input without foreign bytes can be put in front. -/
theorem FirstForeign.behind {more : List UInt8} {position : Nat} {byte : UInt8}
    (first : FirstForeign more position byte) {bytes : List UInt8}
    (known : ∀ other ∈ bytes, isForeign other = false) :
    FirstForeign (bytes ++ more) (bytes.length + position) byte := by
  obtain ⟨front, later, rfl, rfl, foreign, earlier⟩ := firstForeign_iff.mp first
  exact firstForeign_iff.mpr ⟨bytes ++ front, later, by rw [List.append_assoc],
    List.length_append.symm, foreign, List.forall_mem_append.mpr ⟨known, earlier⟩⟩

/-- A failure of the first input is that of the whole, whatever follows. -/
theorem tokenize_append_of_error {bytes : List UInt8} {error : ScanError}
    (failed : tokenize bytes = .error error) (more : List UInt8) :
    tokenize (bytes ++ more) = .error error := by
  obtain ⟨position, byte⟩ := error
  exact tokenize_eq_error_iff.mpr ((tokenize_eq_error_iff.mp failed).append more)

/-- A failure of the second input is found further on, by the length of the first. -/
theorem tokenize_append_of_later_error {bytes more : List UInt8} {tokens : List Token}
    {position : Nat} {byte : UInt8} (scanned : tokenize bytes = .ok tokens)
    (failed : tokenize more = .error (.unexpectedCharacter position byte)) :
    tokenize (bytes ++ more) = .error (.unexpectedCharacter (bytes.length + position) byte) := by
  have complete := ((tokenize_eq_ok_iff bytes tokens).mp scanned).1
  have known := (failure_eq_none_iff 0 bytes).mp complete
  exact tokenize_eq_error_iff.mpr ((tokenize_eq_error_iff.mp failed).behind known)

/-! ### Tokens -/

/-- The tokens of the second input follow those of the first, and their offsets count
the bytes of the first. -/
theorem lexemes_append {bytes more : List UInt8}
    (apart : endsWithDigit bytes = false ∨ startsWithDigit more = false)
    {tokens : List Token} (scanned : tokenize bytes = .ok tokens) :
    (ofBytes (bytes ++ more)).lexemes = (ofBytes bytes).lexemes ++
      (ofBytes more).lexemes.map fun lexeme => ⟨lexeme.token, bytes.length + lexeme.offset⟩ := by
  have complete := ((tokenize_eq_ok_iff bytes tokens).mp scanned).1
  simp only [ofBytes_append apart, followedBy, complete, moved]

/-- Where digits meet digits, two numbers are one.

Proof: the last run of digits of the first input ends one of its tokens, and the first
run of the second begins one of its tokens. Taken together they are a run that nothing
prolongs on either side. -/
theorem tokenize_append_of_digits {bytes more : List UInt8} {tokens later : List Token}
    (ends : endsWithDigit bytes = true) (begins : startsWithDigit more = true)
    (scanned : tokenize bytes = .ok tokens) (laterScanned : tokenize more = .ok later) :
    ∃ front last first rest, tokens = front ++ [last] ∧ later = first :: rest ∧
      last.kind = .number ∧ first.kind = .number ∧
      tokenize (bytes ++ more) =
        .ok (front ++ .number (last.value ++ first.value) :: rest) := by
  obtain ⟨before, digits, rfl, occupied, all, beforeEnds⟩ := exists_last_run ends
  obtain ⟨moreDigits, after, rfl, moreOccupied, moreAll, afterBegins⟩ := exists_first_run begins
  -- Nothing stands behind the one run and nothing in front of the other.
  have lastScanned : tokenize (before ++ (digits ++ [])) = .ok tokens := by
    rwa [List.append_nil]
  have firstScanned : tokenize ([] ++ (moreDigits ++ after)) = .ok later := laterScanned
  obtain ⟨front, last, nothing, frontScanned, none, rfl, lastNumber, lastSpelled⟩ :=
    exists_token_of_digits occupied all beforeEnds rfl lastScanned
  obtain ⟨noTokens, first, rest, empty, restScanned, rfl, firstNumber, firstSpelled⟩ :=
    exists_token_of_digits moreOccupied moreAll rfl afterBegins firstScanned
  have nil : tokenize [] = .ok [] := reads_nil.tokenize
  obtain rfl : [] = nothing := Except.ok.inj (nil.symm.trans none)
  obtain rfl : [] = noTokens := Except.ok.inj (nil.symm.trans empty)
  have lastNumeral : Decimal.isNumeral last.value = true :=
    Token.isNumeral_of_number (isWellFormed_of_tokenize scanned (by simp)) lastNumber
  have firstNumeral : Decimal.isNumeral first.value = true :=
    Token.isNumeral_of_number (isWellFormed_of_tokenize laterScanned (by simp)) firstNumber
  have fused : (Token.number (last.value ++ first.value)).isWellFormed = true :=
    Decimal.isNumeral_append lastNumeral firstNumeral
  have single := (reads_token fused).tokenize
  rw [Token.number, bytesOf_append, lastSpelled, firstSpelled] at single
  have behind := (tokenize_append (.inr afterBegins) _).mpr ⟨_, _, single, restScanned, rfl⟩
  have whole := (tokenize_append (.inl beforeEnds) _).mpr ⟨_, _, frontScanned, behind, rfl⟩
  rw [List.append_assoc digits, ← List.append_assoc before] at whole
  exact ⟨front, last, first, rest, rfl, rfl, lastNumber, firstNumber, whole⟩

end Scan

/-- The scan of two inputs in a row follows from the scans of both. The first failure is
that of the whole, further on if it is one of the second input. If there is none, the
tokens follow each other, with the offsets of the second input's moved by the length of
the first; only where digits meet digits are the numbers there fused into one. -/
theorem tokenize_follows_parts :
    (∀ (bytes more : List UInt8) (error : ScanError),
      tokenize bytes = .error error → tokenize (bytes ++ more) = .error error) ∧
    (∀ (bytes more : List UInt8) (tokens later : List Token),
      endsWithDigit bytes = false ∨ startsWithDigit more = false →
      tokenize bytes = .ok tokens → tokenize more = .ok later →
      tokenize (bytes ++ more) = .ok (tokens ++ later) ∧
      (ofBytes (bytes ++ more)).lexemes = (ofBytes bytes).lexemes ++
        (ofBytes more).lexemes.map fun lexeme =>
          ⟨lexeme.token, bytes.length + lexeme.offset⟩) ∧
    (∀ (bytes more : List UInt8) (tokens : List Token) (position : Nat) (byte : UInt8),
      tokenize bytes = .ok tokens →
      tokenize more = .error (.unexpectedCharacter position byte) →
      tokenize (bytes ++ more) =
        .error (.unexpectedCharacter (bytes.length + position) byte)) ∧
    ∀ (bytes more : List UInt8) (tokens later : List Token),
      endsWithDigit bytes = true → startsWithDigit more = true →
      tokenize bytes = .ok tokens → tokenize more = .ok later →
      ∃ front last first rest, tokens = front ++ [last] ∧ later = first :: rest ∧
        last.kind = .number ∧ first.kind = .number ∧
        tokenize (bytes ++ more) =
          .ok (front ++ .number (last.value ++ first.value) :: rest) := by
  refine ⟨?_, ?_, ?_, ?_⟩
  · intro bytes more error failed
    exact tokenize_append_of_error failed more
  · intro bytes more tokens later apart scanned laterScanned
    exact ⟨(tokenize_append apart _).mpr ⟨_, _, scanned, laterScanned, rfl⟩,
      lexemes_append apart scanned⟩
  · intro bytes more tokens position byte scanned failed
    exact tokenize_append_of_later_error scanned failed
  · intro bytes more tokens later ends begins scanned laterScanned
    exact tokenize_append_of_digits ends begins scanned laterScanned

/-- `(10` and `05)` are scanned to `(1005)` in one piece, zeros included. -/
theorem digits_meeting_digits :
    (tokenize [0x31, 0x78] = .error (.unexpectedCharacter 1 0x78) ∧
      tokenize ([0x31, 0x78] ++ [0x79]) = .error (.unexpectedCharacter 1 0x78)) ∧
    (tokenize [0x31, 0x20] = .ok [.number "1"] ∧ tokenize [0x32] = .ok [.number "2"] ∧
      tokenize ([0x31, 0x20] ++ [0x32]) = .ok ([.number "1"] ++ [.number "2"])) ∧
    (tokenize [0x32, 0x0d] = .error (.unexpectedCharacter 1 0x0d) ∧
      tokenize ([0x31, 0x20] ++ [0x32, 0x0d]) = .error (.unexpectedCharacter (2 + 1) 0x0d)) ∧
    tokenize [0x28, 0x31, 0x30] = .ok [.openParen, .number "10"] ∧
    tokenize [0x30, 0x35, 0x29] = .ok [.number "05", .closeParen] ∧
    ∃ (front : List Token) (last first : Token) (rest : List Token),
      [.openParen, .number "10"] = front ++ [last] ∧
      [.number "05", .closeParen] = first :: rest ∧
      last.kind = .number ∧ first.kind = .number ∧
      tokenize ([0x28, 0x31, 0x30] ++ [0x30, 0x35, 0x29]) =
        .ok (front ++ .number (last.value ++ first.value) :: rest) := by
  have failed : tokenize [0x31, 0x78] = .error (.unexpectedCharacter 1 0x78) :=
    tokenize_eq_error_iff.mpr ⟨rfl, by decide, by decide +kernel⟩
  have returned : tokenize [0x32, 0x0d] = .error (.unexpectedCharacter 1 0x0d) :=
    tokenize_eq_error_iff.mpr ⟨rfl, by decide, by decide +kernel⟩
  have one : tokenize [0x31, 0x20] = .ok [.number "1"] :=
    (tokenize_eq_ok_iff _ _).mpr (by decide +kernel)
  have two : tokenize [0x32] = .ok [.number "2"] :=
    (tokenize_eq_ok_iff _ _).mpr (by decide +kernel)
  have opened : tokenize [0x28, 0x31, 0x30] = .ok [.openParen, .number "10"] :=
    (tokenize_eq_ok_iff _ _).mpr (by decide +kernel)
  have closed : tokenize [0x30, 0x35, 0x29] = .ok [.number "05", .closeParen] :=
    (tokenize_eq_ok_iff _ _).mpr (by decide +kernel)
  obtain ⟨fails, follow, failsLater, fuse⟩ := tokenize_follows_parts
  exact ⟨⟨failed, fails [0x31, 0x78] [0x79] _ failed⟩,
    ⟨one, two, (follow [0x31, 0x20] [0x32] _ _ (.inl rfl) one two).1⟩,
    ⟨returned, failsLater [0x31, 0x20] [0x32, 0x0d] _ _ _ one returned⟩,
    opened, closed, fuse [0x28, 0x31, 0x30] [0x30, 0x35, 0x29] _ _ (by decide) (by decide) opened closed⟩

end Reckoner
