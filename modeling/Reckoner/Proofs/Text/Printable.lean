import Reckoner.Proofs.Token.Spelling

/-!
# Printable texts

A text of printable ASCII characters stays on its line when it is written. Numerals
are such texts, and so is any byte as it is escaped for a message.
-/

namespace Reckoner

/-- Printable ASCII: from the space to the tilde. -/
def isPrintableChar (character : Char) : Bool :=
  0x20 ≤ character.toNat && character.toNat ≤ 0x7e

/-- A text of printable ASCII characters. -/
def isPrintable (text : String) : Bool := text.toList.all isPrintableChar

/-- A text in two parts is printable if both parts are, and not otherwise. -/
@[simp] theorem isPrintable_append (text later : String) :
    isPrintable (text ++ later) = (isPrintable text && isPrintable later) := by
  rw [isPrintable, String.toList_append, List.all_append]
  rfl

/-- There is no newline in a printable text. -/
theorem newline_not_mem {text : String} (printable : isPrintable text = true) :
    '\n' ∉ text.toList := by
  intro member
  have newline : isPrintableChar '\n' = true := List.all_eq_true.mp printable _ member
  cases newline

/-- A numeral is printable, since digits are. -/
theorem isPrintable_numeral {numeral : String} (isNumeral : Decimal.isNumeral numeral = true) :
    isPrintable numeral = true := by
  obtain ⟨_, digits⟩ := Decimal.isNumeral_iff.mp isNumeral
  refine List.all_eq_true.mpr fun character member => ?_
  obtain ⟨low, high⟩ := digits character member
  simp only [isPrintableChar, Bool.and_eq_true, decide_eq_true_eq]
  omega

/-- The numeral of a number is printable. -/
@[simp] theorem isPrintable_writeNat (number : Nat) :
    isPrintable (Decimal.writeNat number) = true :=
  isPrintable_numeral (Decimal.isNumeral_writeNat number)

/-- The text of a well-formed token is a numeral or its own symbol. -/
theorem Token.isPrintable_value {token : Token} (wellFormed : token.isWellFormed = true) :
    isPrintable token.value = true := by
  obtain ⟨kind, value⟩ := token
  cases kind with
  | number => exact isPrintable_numeral wellFormed
  | openParen | closeParen =>
    obtain rfl := of_decide_eq_true wellFormed
    rfl
  | operator sign =>
    obtain rfl := of_decide_eq_true wellFormed
    cases sign <;> rfl

namespace Escape

/-- Hexadecimal digits are printable. -/
theorem isPrintableChar_hexDigit (value : Nat) : isPrintableChar (hexDigit value) = true := by
  have digits : ∀ digit < 16, isPrintableChar (Nat.digitChar digit) = true := by decide
  exact digits _ (Nat.mod_lt value (by decide))

/-- A byte is escaped to printable characters, whatever byte it is. -/
@[simp] theorem isPrintable_byte (value : UInt8) : isPrintable (byte value) = true := by
  unfold byte
  -- The short escapes are fixed texts.
  repeat (split; · rfl)
  split
  · rename_i range
    obtain ⟨low, high⟩ := range
    rw [UInt8.le_iff_toNat_le] at low high
    have first : (0x20 : UInt8).toNat = 32 := rfl
    have last : (0x7e : UInt8).toNat = 126 := rfl
    simp only [isPrintable, String.toList_singleton, List.all_cons, List.all_nil, Bool.and_true,
      isPrintableChar, toNat_char_of_byte, Bool.and_eq_true, decide_eq_true_eq]
    omega
  · have fixed : isPrintableChar '\\' = true ∧ isPrintableChar 'x' = true := by decide
    simp [isPrintable, hexByte, isPrintableChar_hexDigit, fixed]

end Escape

end Reckoner
