import Reckoner.Text.Combining
import Reckoner.Text.Invisible
import Reckoner.Text.Unassigned

/-!
# Quoted literals

A text between double quotes, with everything escaped that could end the
literal early or could not be read off the page: characters that are not seen,
marks that would merge with the character before them, and code points without a
character. Letters, digits, signs and symbols of all scripts stand for
themselves.
-/

namespace Reckoner.Quoted

/-- Whether a character is written as an escape because it could not be read. -/
def isHidden (character : Char) : Bool :=
  Invisible.isInvisible character || Combining.ranges.has character ||
    Unassigned.ranges.has character

/-- The code point in lower-case hexadecimal between braces, after `\u`. -/
def codePoint (character : Char) : List Char :=
  ['\\', 'u', '\x7b'] ++ Nat.toDigits 16 character.toNat ++ ['\x7d']

/-- A character as it stands in a literal. The single quote needs no escape
between double quotes. -/
def escape (character : Char) : List Char :=
  if character = '\x00' then ['\\', '0']
  else if character = '\t' then ['\\', 't']
  else if character = '\r' then ['\\', 'r']
  else if character = '\n' then ['\\', 'n']
  else if character = '"' then ['\\', '"']
  else if character = '\\' then ['\\', '\\']
  else if ' ' ≤ character ∧ character ≤ '~' then [character]
  else if isHidden character then codePoint character
  else [character]

/-- The text as a literal between double quotes. -/
def literal (text : String) : String :=
  String.ofList (['"'] ++ text.toList.flatMap escape ++ ['"'])

end Reckoner.Quoted
