import Reckoner.Text.Decimal
import Reckoner.Text.Escape
import Reckoner.Token.Basic

/-!
# Scanning bytes into tokens

Space, tab and newline separate tokens and are otherwise skipped. A run of ASCII
digits is one number token, as long as it can be and with every digit kept;
parentheses and the two operators are tokens of one byte each. The scan stops at
the first byte that is none of these and reports it with its offset.

A scan returns what it found before it stopped along with the reason for
stopping, so the tokens in front of a failure are not lost. Each recursive call
gets fewer bytes, so every input has a scan.
-/

namespace Reckoner

/-- A byte that belongs to no token. The position counts bytes from the start of
the input. -/
inductive ScanError where
  | unexpectedCharacter (position : Nat) (byte : UInt8)
deriving DecidableEq, Repr, Inhabited

/-- The message for a failed scan. The byte is shown escaped, so it cannot break
the line. -/
def ScanError.message : ScanError → String
  | .unexpectedCharacter position byte =>
    "unexpected character at " ++ Decimal.writeNat position ++ ": '" ++ Escape.byte byte ++ "'"

/-- A token together with the offset of its first byte. -/
structure Lexeme where
  token : Token
  offset : Nat
deriving DecidableEq, Repr, Inhabited

/-- The tokens found, in order, and what stopped the scan before the end of the
input, if anything did. -/
structure Scan where
  lexemes : List Lexeme
  failure : Option ScanError
deriving DecidableEq, Repr, Inhabited

namespace Scan

/-- Space, tab and newline. A carriage return is not a separator. -/
def isSeparator (byte : UInt8) : Bool := byte = 0x20 || byte = 0x09 || byte = 0x0a

/-- The ASCII digits. -/
def isDigit (byte : UInt8) : Bool := 0x30 ≤ byte && byte ≤ 0x39

/-- The text of ASCII bytes, one character for each. -/
def textOf (bytes : List UInt8) : String :=
  String.ofList (bytes.map fun byte => Char.ofNat byte.toNat)

/-- The token that a single byte makes on its own. -/
def punctuation? (byte : UInt8) : Option Token :=
  if byte = 0x28 then some .openParen
  else if byte = 0x29 then some .closeParen
  else if byte = 0x2b then some (.operator .add)
  else if byte = 0x2d then some (.operator .subtract)
  else none

/-- Puts a token in front of a scan of the bytes after it. -/
def cons (lexeme : Lexeme) (scan : Scan) : Scan :=
  { scan with lexemes := lexeme :: scan.lexemes }

/-- Scans bytes whose first one stands at `offset` in the whole input. -/
def ofBytesAt (offset : Nat) : List UInt8 → Scan
  | [] => ⟨[], none⟩
  | byte :: rest =>
    if isSeparator byte then ofBytesAt (offset + 1) rest
    else if isDigit byte then
      let digits := byte :: rest.takeWhile isDigit
      (ofBytesAt (offset + digits.length) (rest.dropWhile isDigit)).cons
        ⟨.number (textOf digits), offset⟩
    else
      match punctuation? byte with
      | some token => (ofBytesAt (offset + 1) rest).cons ⟨token, offset⟩
      | none => ⟨[], some (.unexpectedCharacter offset byte)⟩
termination_by bytes => bytes.length
decreasing_by
  all_goals simp only [List.length_cons]
  · omega
  · have := (List.dropWhile_sublist isDigit (l := rest)).length_le
    omega
  · omega

/-- The scan of a whole input. -/
def ofBytes (bytes : List UInt8) : Scan := ofBytesAt 0 bytes

/-- The tokens, without their offsets. -/
def tokens (scan : Scan) : List Token := scan.lexemes.map Lexeme.token

/-- The tokens of a scan that reached the end of its input, else the failure. -/
def result (scan : Scan) : Except ScanError (List Token) :=
  match scan.failure with
  | none => .ok scan.tokens
  | some failure => .error failure

end Scan

/-- The tokens of an input, or its first byte that belongs to none. -/
def tokenize (bytes : List UInt8) : Except ScanError (List Token) :=
  (Scan.ofBytes bytes).result

/-- The bytes of a text in UTF-8. -/
def bytesOf (text : String) : List UInt8 := text.toUTF8.toList

end Reckoner
