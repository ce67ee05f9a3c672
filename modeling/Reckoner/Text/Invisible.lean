import Reckoner.Text.CodePoints

/-!
# Characters that are not seen

Characters that leave no mark of their own on the page: controls, separators,
format characters, the fillers that stand for a missing part of a Hangul
syllable, and private characters, whose looks nobody knows. The plain space is
left out, as everybody knows it.
-/

namespace Reckoner.Invisible

/-- The controls, general category Cc. -/
def controls : CodePoints := [(0x00, 0x1f), (0x7f, 0x9f)]

/-- The separators, general categories Zs, Zl and Zp, without the plain space. -/
def separators : CodePoints :=
  [(0xa0, 0xa0), (0x1680, 0x1680), (0x2000, 0x200a), (0x2028, 0x2029), (0x202f, 0x202f),
   (0x205f, 0x205f), (0x3000, 0x3000)]

/-- The format characters, general category Cf. -/
def formats : CodePoints :=
  [(0xad, 0xad), (0x600, 0x605), (0x61c, 0x61c), (0x6dd, 0x6dd), (0x70f, 0x70f), (0x890, 0x891),
   (0x8e2, 0x8e2), (0x180e, 0x180e), (0x200b, 0x200f), (0x202a, 0x202e), (0x2060, 0x2064),
   (0x2066, 0x206f), (0xfeff, 0xfeff), (0xfff9, 0xfffb), (0x110bd, 0x110bd), (0x110cd, 0x110cd),
   (0x13430, 0x1343f), (0x1bca0, 0x1bca3), (0x1d173, 0x1d17a), (0xe0001, 0xe0001),
   (0xe0020, 0xe007f)]

/-- The letters with the property Default_Ignorable_Code_Point. -/
def fillers : CodePoints := [(0x115f, 0x1160), (0x3164, 0x3164), (0xffa0, 0xffa0)]

/-- The private use areas, general category Co. -/
def privateUse : CodePoints := [(0xe000, 0xf8ff), (0xf0000, 0xffffd), (0x100000, 0x10fffd)]

/-- Whether a character is not seen. -/
def isInvisible (character : Char) : Bool :=
  controls.has character || separators.has character || formats.has character ||
    fillers.has character || privateUse.has character

end Reckoner.Invisible
