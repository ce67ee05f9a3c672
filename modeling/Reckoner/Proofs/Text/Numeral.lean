import Mathlib.Data.List.Basic
import Reckoner.Proofs.Token.Spelling

/-!
# Canonical decimals

An integer has one text in the usual notation: a numeral without zeros in front of it,
which is read as the integer's absolute value, and a minus sign in front of the numeral
exactly if the integer is negative. The writer of decimals writes this text.

Reading takes the digits of a numeral from left to right. Digits behind a number that
is positive already are those behind its own numeral, so no text but the canonical one
is left for a number once there is no zero in front.
-/

namespace Reckoner.Decimal

/-- A numeral in which every digit counts: none but zero itself begins with a zero. -/
structure Shortest (numeral : String) : Prop where
  digits : isNumeral numeral = true
  lead : numeral.toList.head? = some '0' → numeral = "0"

/-- The text of an integer in the usual notation. -/
def IsCanonical (text : String) (value : Int) : Prop :=
  ∃ numeral, Shortest numeral ∧ read numeral = value.natAbs ∧
    text = (if value < 0 then "-" else "") ++ numeral

/-- Two numerals put together are a numeral. -/
theorem isNumeral_append {text later : String} (numeral : isNumeral text = true)
    (laterNumeral : isNumeral later = true) : isNumeral (text ++ later) = true := by
  obtain ⟨occupied, digits⟩ := isNumeral_iff.mp numeral
  obtain ⟨_, laterDigits⟩ := isNumeral_iff.mp laterNumeral
  rw [isNumeral_iff]
  constructor
  · intro empty
    exact occupied (String.append_eq_empty_iff.mp empty).1
  · intro character member
    rw [String.toList_append, List.mem_append] at member
    exact member.elim (digits character) (laterDigits character)

/-- A zero in front of a numeral does not count, since nothing has been read before it. -/
theorem read_zero_append (numeral : String) : read ("0" ++ numeral) = read numeral := by
  rw [read, String.toList_append]
  rfl

/-! ### From a number to its numeral -/

/-- The numeral of a positive number does not begin with a zero: its first digit is
that of a number below ten, which is positive as well. -/
theorem head?_toDigits {number : Nat} (positive : 0 < number) :
    (Nat.toDigits 10 number).head? ≠ some '0' := by
  induction number using Nat.strongRecOn with
  | ind number inductionHypothesis =>
    rcases Nat.lt_or_ge number 10 with small | large
    · rw [Nat.toDigits_of_lt_base small, List.head?_cons]
      intro zero
      have none : number = 0 := Nat.digitChar_eq_zero.mp (Option.some.inj zero)
      omega
    · have fewer : number / 10 < number := by omega
      have left : 0 < number / 10 := by omega
      rw [Nat.toDigits_of_base_le (by decide) large,
        List.head?_append_of_ne_nil _ Nat.toDigits_ne_nil]
      exact inductionHypothesis (number / 10) fewer left

/-- The numeral that is written for a number begins with a zero only if the number is
zero. -/
theorem shortest_writeNat (number : Nat) : Shortest (writeNat number) where
  digits := isNumeral_writeNat number
  lead := by
    intro zero
    rw [writeNat, String.toList_ofList] at zero
    rcases Nat.eq_zero_or_pos number with rfl | positive
    · rfl
    · exact absurd zero (head?_toDigits positive)

/-! ### From a numeral to its number -/

/-- A digit is that of its own value. -/
theorem digitChar_of_digit {digit : Char} (isDigit : 48 ≤ digit.toNat ∧ digit.toNat ≤ 57) :
    Nat.digitChar (digit.toNat - 48) = digit := by
  have small : digit.toNat - 48 < 10 := by omega
  apply Char.toNat_inj.mp
  rw [Nat.toNat_digitChar_of_lt_ten small]
  omega

/-- Digits that are read on behind a positive number stand behind its numeral. -/
theorem toDigits_ofDigitChars {digits : List Char}
    (all : ∀ digit ∈ digits, 48 ≤ digit.toNat ∧ digit.toNat ≤ 57) {number : Nat}
    (positive : 0 < number) :
    Nat.toDigits 10 (Nat.ofDigitChars 10 digits number) = Nat.toDigits 10 number ++ digits := by
  induction digits generalizing number with
  | nil => rw [Nat.ofDigitChars_nil, List.append_nil]
  | cons digit later inductionHypothesis =>
    obtain ⟨isDigit, rest⟩ := List.forall_mem_cons.mp all
    have small : digit.toNat - 48 < 10 := by omega
    have larger : 0 < 10 * number + (digit.toNat - 48) := by omega
    have one : Nat.toDigits 10 (10 * number + (digit.toNat - 48)) =
        Nat.toDigits 10 number ++ [digit] := by
      rw [← Nat.toDigits_append_toDigits (by decide) positive small,
        Nat.toDigits_of_lt_base small, digitChar_of_digit isDigit]
    calc Nat.toDigits 10 (Nat.ofDigitChars 10 (digit :: later) number)
      _ = Nat.toDigits 10 (10 * number + (digit.toNat - 48)) ++ later :=
        inductionHypothesis rest larger
      _ = Nat.toDigits 10 number ++ digit :: later := by
        rw [one, List.append_assoc, List.singleton_append]

/-- A numeral in which every digit counts is that of its number.

Proof: the first digit is positive unless the numeral is that of zero, and behind a
positive number the other digits are written as they were read. -/
theorem Shortest.writeNat_read {numeral : String} (shortest : Shortest numeral) :
    writeNat (read numeral) = numeral := by
  obtain ⟨occupied, all⟩ := isNumeral_iff.mp shortest.digits
  match spelled : numeral.toList with
  | [] => exact absurd (String.toList_eq_nil_iff.mp spelled) occupied
  | first :: later =>
    rw [spelled] at all
    obtain ⟨isDigit, rest⟩ := List.forall_mem_cons.mp all
    by_cases zero : first = '0'
    · have isZero : numeral = "0" := shortest.lead (by rw [spelled, zero, List.head?_cons])
      rw [isZero]
      rfl
    · have notZero : first.toNat ≠ 48 := fun same => zero (Char.toNat_inj.mp same)
      have positive : 0 < first.toNat - 48 := by omega
      have small : first.toNat - 48 < 10 := by omega
      have value : read numeral = Nat.ofDigitChars 10 later (first.toNat - 48) := by
        rw [read, spelled, Nat.ofDigitChars_cons, Nat.mul_zero, Nat.zero_add]
        rfl
      have whole : Nat.toDigits 10 (read numeral) = numeral.toList := by
        rw [value, toDigits_ofDigitChars rest positive, Nat.toDigits_of_lt_base small,
          digitChar_of_digit isDigit, spelled, List.singleton_append]
      rw [writeNat, whole, String.ofList_toList]

/-! ### Integers -/

/-- A text is the usual one of an integer exactly if it is the one written for it. -/
theorem isCanonical_iff {text : String} {value : Int} :
    IsCanonical text value ↔ text = write value := by
  have written : write value = (if value < 0 then "-" else "") ++ writeNat value.natAbs := by
    cases value with
    | ofNat number =>
      have notNegative : ¬ Int.ofNat number < 0 := Int.not_lt.mpr (Int.natCast_nonneg number)
      rw [if_neg notNegative, String.empty_append]
      rfl
    | negSucc number =>
      rw [if_pos (Int.negSucc_lt_zero number)]
      rfl
  rw [written]
  constructor
  · rintro ⟨numeral, shortest, isRead, rfl⟩
    rw [← isRead, shortest.writeNat_read]
  · rintro rfl
    exact ⟨_, shortest_writeNat _, read_writeNat _, rfl⟩

end Reckoner.Decimal
