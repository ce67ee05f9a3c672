import Reckoner.Proofs.Calculation.Value
import Reckoner.Proofs.Grammar.Rejection
import Reckoner.Proofs.Token.Concatenation
import Reckoner.Text.Blank

/-!
# Texts without a value

A text without a value is one that cannot be read: it has a byte that belongs to no
token, or its tokens are no expression. A text of white space is always such a text,
since there is no token in it.
-/

namespace Reckoner

/-- A text fails exactly if it cannot be read, and for the same cause. -/
theorem evaluate_eq_error_iff {text : String} {failure : Failure} :
    evaluate text = .error failure ↔
      ∃ cause, Tree.ofText text = .error cause ∧ failure = .unreadable cause := by
  rw [evaluate]
  cases parsed : Tree.ofText text with
  | error cause => simp [eq_comm]
  | ok tree =>
    obtain ⟨tokens, scanned, accepted⟩ := Tree.ofText_eq_ok_iff.mp parsed
    simp [Tree.value_of_accepted scanned accepted]

/-- A text cannot be read exactly if its scan fails or its tokens are rejected. -/
theorem Tree.ofText_eq_error_iff {text : String} {cause : ReadError} :
    ofText text = .error cause ↔
      (∃ error, tokenize (bytesOf text) = .error error ∧ cause = .lexical error) ∨
      ∃ tokens error, tokenize (bytesOf text) = .ok tokens ∧ ofTokens tokens = .error error ∧
        cause = .grammatical error := by
  rw [ofText, ofBytes]
  cases scanned : tokenize (bytesOf text) with
  | error error => simp [eq_comm]
  | ok tokens => cases accepted : ofTokens tokens <;> simp [accepted, eq_comm]

/-- No expression begins with a sign, whatever is scanned behind it. -/
theorem evaluate_behind_sign (sign : Sign) {text : String} {tokens : List Token}
    (scanned : tokenize (bytesOf text) = .ok tokens) :
    evaluate (sign.text ++ text) =
      .error (.unreadable (.grammatical (.unexpectedToken (.operator sign) 0))) := by
  have wellFormed : (Token.operator sign).isWellFormed = true := decide_eq_true rfl
  have scannedBehind := tokenize_behind_symbol (.operator sign) wellFormed nofun scanned
  have rejected := (Grammar.rejected_iff_fault (.operator sign :: tokens) _).mpr rfl
  exact evaluate_eq_error_iff.mpr
    ⟨_, Tree.ofText_eq_error_iff.mpr (.inr ⟨_, _, scannedBehind, rejected, rfl⟩), rfl⟩

/-- A sign alone is no expression. -/
theorem evaluate_sign (sign : Sign) :
    evaluate sign.text =
      .error (.unreadable (.grammatical (.unexpectedToken (.operator sign) 0))) := by
  have nothing : tokenize (bytesOf "") = .ok [] := by rw [bytesOf_empty, Scan.reads_nil.tokenize]
  have alone := evaluate_behind_sign sign nothing
  rwa [String.append_empty] at alone

/-! ### White space -/

namespace Scan

/-- A byte that no token has in its text: a token is visible ASCII. -/
theorem no_token_of_byte {byte : UInt8} (outside : byte.toNat ≤ 32 ∨ 128 ≤ byte.toNat) :
    isDigit byte = false ∧ punctuation? byte = none := by
  constructor
  · rw [← Bool.not_eq_true, isDigit_iff]
    omega
  · have other (symbol : UInt8) (visible : 32 < symbol.toNat ∧ symbol.toNat < 128) :
        byte ≠ symbol := by
      rintro rfl
      omega
    rw [punctuation?, if_neg (other 0x28 (by decide)), if_neg (other 0x29 (by decide)),
      if_neg (other 0x2b (by decide)), if_neg (other 0x2d (by decide))]

/-- A scan of such bytes finds nothing, whether it gets to their end or not. -/
theorem lexemes_eq_nil {bytes : List UInt8}
    (outside : ∀ byte ∈ bytes, byte.toNat ≤ 32 ∨ 128 ≤ byte.toNat) (offset : Nat) :
    (ofBytesAt offset bytes).lexemes = [] := by
  fun_induction ofBytesAt offset bytes with
  | case1 offset => rfl
  | case2 offset byte rest separator inductionHypothesis =>
    exact inductionHypothesis (List.forall_mem_cons.mp outside).2
  | case3 offset byte rest separator digit =>
    rw [(no_token_of_byte (outside byte List.mem_cons_self)).1] at digit
    cases digit
  | case4 offset byte rest separator digit token found =>
    rw [(no_token_of_byte (outside byte List.mem_cons_self)).2] at found
    cases found
  | case5 offset byte rest separator digit found => rfl

end Scan

/-- White space of ASCII comes before the visible characters. -/
theorem Blank.outside_of_isBlank {character : Char} (blank : isBlank character = true) :
    character.toNat ≤ 32 ∨ 128 ≤ character.toNat := by
  simp only [isBlank, CodePoints.has, ranges, List.any_cons, List.any_nil, Bool.or_eq_true,
    Bool.and_eq_true, decide_eq_true_eq, Bool.false_eq_true, or_false] at blank
  omega

/-- No byte of a blank text belongs to a token. -/
theorem Blank.outside_of_mem_bytesOf {text : String} (blank : isBlankText text = true)
    {byte : UInt8} (member : byte ∈ bytesOf text) : byte.toNat ≤ 32 ∨ 128 ≤ byte.toNat := by
  rw [bytesOf_eq_flatMap] at member
  obtain ⟨character, within, spelled⟩ := List.mem_flatMap.mp member
  rcases outside_of_isBlank (List.all_eq_true.mp blank character within) with low | high
  · have ascii : character.toNat < 128 := by omega
    rw [utf8EncodeChar_of_ascii ascii, List.mem_singleton] at spelled
    rw [spelled, UInt8.toNat_ofNat', Nat.mod_eq_of_lt (by omega)]
    exact .inl low
  · exact .inr (not_ascii_of_mem high spelled)

/-- A blank text has no value: what is scanned of it is no token. -/
theorem exists_failure_of_blank {text : String} (blank : Blank.isBlankText text = true) :
    ∃ failure, evaluate text = .error failure := by
  have nothing : (Scan.ofBytes (bytesOf text)).lexemes = [] :=
    Scan.lexemes_eq_nil (fun _ => Blank.outside_of_mem_bytesOf blank) 0
  cases scanned : tokenize (bytesOf text) with
  | error error =>
    exact ⟨_, evaluate_eq_error_iff.mpr
      ⟨_, Tree.ofText_eq_error_iff.mpr (.inl ⟨error, scanned, rfl⟩), rfl⟩⟩
  | ok tokens =>
    have empty : tokens = [] := by
      rw [← ((tokenize_eq_ok_iff _ _).mp scanned).2, Scan.tokens, nothing, List.map_nil]
    subst empty
    exact ⟨_, evaluate_eq_error_iff.mpr
      ⟨_, Tree.ofText_eq_error_iff.mpr (.inr ⟨[], _, scanned, rfl, rfl⟩), rfl⟩⟩

end Reckoner
