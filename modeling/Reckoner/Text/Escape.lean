/-!
# Bytes as visible text

A byte that an error message shows is written with printable ASCII characters
only, so a message stays on one line and cannot carry a control sequence from
the input to a terminal. Quotes and the backslash are escaped as well, so the
written form between two quotes always ends where it seems to end.
-/

namespace Reckoner.Escape

/-- One lower-case hexadecimal digit. -/
def hexDigit (value : Nat) : Char := Nat.digitChar (value % 16)

/-- A byte as `\x` and two lower-case hexadecimal digits. -/
def hexByte (byte : UInt8) : String :=
  String.ofList ['\\', 'x', hexDigit (byte.toNat / 16), hexDigit byte.toNat]

/-- Tab, carriage return, newline, the two quotes and the backslash have short
escapes; the other printable ASCII characters stand for themselves; all other
bytes are written in hexadecimal. -/
def byte (value : UInt8) : String :=
  if value = 0x09 then "\\t"
  else if value = 0x0d then "\\r"
  else if value = 0x0a then "\\n"
  else if value = 0x27 then "\\'"
  else if value = 0x22 then "\\\""
  else if value = 0x5c then "\\\\"
  else if 0x20 ≤ value ∧ value ≤ 0x7e then String.singleton (Char.ofNat value.toNat)
  else hexByte value

end Reckoner.Escape
