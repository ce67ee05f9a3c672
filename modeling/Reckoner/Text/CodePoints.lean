/-!
# Sets of code points

A set of characters is given by ranges of code points, each with its first and
its last member. Tables list their ranges in increasing order and without
overlaps, but membership does not rely on that.
-/

namespace Reckoner

/-- Ranges of code points, both ends included. -/
abbrev CodePoints := List (Nat × Nat)

/-- Whether a character lies in one of the ranges. -/
def CodePoints.has (ranges : CodePoints) (character : Char) : Bool :=
  ranges.any fun (first, last) => first ≤ character.toNat && character.toNat ≤ last

end Reckoner
