/-!
# The two operators

Sums and differences are all there is: an operator either adds the operand on
its right or subtracts it.
-/

namespace Reckoner

/-- An operator between two operands. -/
inductive Sign where
  | add
  | subtract
deriving DecidableEq, Repr, Inhabited

namespace Sign

/-- The character that stands for the operator in a text. -/
def symbol : Sign → Char
  | .add => '+'
  | .subtract => '-'

/-- The one-character text of the operator. -/
def text (sign : Sign) : String := String.singleton sign.symbol

/-- Applies the operator to the value on its left and the value on its right. -/
def apply (left : Int) : Sign → Int → Int
  | .add, right => left + right
  | .subtract, right => left - right

end Sign

end Reckoner
