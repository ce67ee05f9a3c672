/-!
# Lines of a byte stream

A newline byte ends a line. The line is what stands before it, without one
carriage return directly in front of the newline. Bytes after the last newline
form one more line if there are any, and that line is taken as it is: with no
newline after it, a carriage return at its end belongs to it.
-/

namespace Reckoner.Lines

/-- The byte that ends a line. -/
def newline : UInt8 := 0x0a

/-- The byte that is dropped when it stands directly before a newline. -/
def carriageReturn : UInt8 := 0x0d

/-- The line that a newline ends, from its bytes in reverse order. -/
def finished : List UInt8 → List UInt8
  | [] => []
  | byte :: earlier =>
    if byte = carriageReturn then earlier.reverse else (byte :: earlier).reverse

/-- Cuts the bytes into lines; `held` has the bytes of the line in progress in
reverse order. -/
def splitFrom (held : List UInt8) : List UInt8 → List (List UInt8)
  | [] => if held.isEmpty then [] else [held.reverse]
  | byte :: rest =>
    if byte = newline then finished held :: splitFrom [] rest
    else splitFrom (byte :: held) rest

/-- The lines of a byte stream, in order. -/
def split (bytes : List UInt8) : List (List UInt8) := splitFrom [] bytes

end Reckoner.Lines
