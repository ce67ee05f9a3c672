/-!
# Whole numbers in decimal notation

A numeral is a non-empty text of the ten ASCII digits. Reading takes a numeral
of any length with any number of leading zeros; writing uses the shortest
numeral, with a minus sign in front of a negative number and nothing else
besides digits. Numbers are unbounded, so neither direction can overflow.
-/

namespace Reckoner.Decimal

/-- A text that is not empty and consists of ASCII digits only. Digits of other
scripts, signs, separators and blanks all make a text something else. -/
def isNumeral (text : String) : Bool :=
  !text.isEmpty && text.toList.all Char.isDigit

/-- The number that a numeral denotes, most significant digit first. Leading
zeros do not count. -/
def read (numeral : String) : Nat := Nat.ofDigitChars 10 numeral.toList 0

/-- The shortest numeral of a natural number: no leading zero except in zero
itself. -/
def writeNat (number : Nat) : String := String.ofList (Nat.toDigits 10 number)

/-- The decimal text of an integer. Zero has no sign. -/
def write : Int → String
  | .ofNat number => writeNat number
  | .negSucc number => "-" ++ writeNat (number + 1)

/-- Reading a number's own numeral gives the number back. -/
theorem read_writeNat (number : Nat) : read (writeNat number) = number := by
  simp [read, writeNat, Nat.ofDigitChars_toDigits]

/-- A number's own numeral is one. -/
theorem isNumeral_writeNat (number : Nat) : isNumeral (writeNat number) = true := by
  have occupied : Nat.toDigits 10 number ≠ [] := Nat.toDigits_ne_nil
  have digits : ∀ character ∈ Nat.toDigits 10 number, character.isDigit = true :=
    fun _ member => Nat.isDigit_of_mem_toDigits (by decide) (Nat.le_refl 10) member
  simpa [isNumeral, writeNat, occupied] using digits

end Reckoner.Decimal
