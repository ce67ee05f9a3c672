import Reckoner.Text.CodePoints

/-!
# White space

The characters with Unicode's property White_Space. There are twenty-five. Zero
width spaces and the byte order mark do not have it, although they print
nothing.
-/

namespace Reckoner.Blank

/-- The characters with the property White_Space. -/
def ranges : CodePoints :=
  [(0x09, 0x0d), (0x20, 0x20), (0x85, 0x85), (0xa0, 0xa0), (0x1680, 0x1680),
   (0x2000, 0x200a), (0x2028, 0x2029), (0x202f, 0x202f), (0x205f, 0x205f), (0x3000, 0x3000)]

/-- White space in the sense of Unicode, not only of ASCII. -/
def isBlank (character : Char) : Bool := ranges.has character

/-- A text with nothing but white space in it; the empty text is one. -/
def isBlankText (text : String) : Bool := text.toList.all isBlank

end Reckoner.Blank
