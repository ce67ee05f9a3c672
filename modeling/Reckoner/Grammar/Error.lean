import Reckoner.Cursor.Basic

/-!
# Rejected token lists

A token list that is no expression is rejected either for a token that cannot
stand where it stands or because it ends too early. Of two rejections, the one
that reaches further into the list is the more useful one to report; the end of
the list is further than every token.
-/

namespace Reckoner

/-- Why a token list is no expression. The position counts tokens from the
start. -/
inductive ParseError where
  | unexpectedToken (token : Token) (position : Nat)
  | unexpectedEndOfInput
deriving DecidableEq, Repr, Inhabited

namespace ParseError

/-- The message for a rejected token list. The token is shown by its text, as it
is. -/
def message : ParseError → String
  | .unexpectedToken token position =>
    "unexpected token \"" ++ token.value ++ "\" at " ++ Decimal.writeNat position
  | .unexpectedEndOfInput => "unexpected end of input"

/-- How far a rejection reaches into a list of `size` tokens. -/
def reach (size : Nat) : ParseError → Nat
  | .unexpectedToken _ position => position
  | .unexpectedEndOfInput => size

/-- The rejection for a cursor that did not move: both causes mean that there
was no token to go to. -/
def ofCursor : CursorError → ParseError
  | .endOfInput => .unexpectedEndOfInput
  | .outOfRange _ => .unexpectedEndOfInput

end ParseError

end Reckoner
