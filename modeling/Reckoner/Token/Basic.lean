import Reckoner.Sign
import Reckoner.Text.Quoted

/-!
# Tokens

A token has a kind and the text it was read from. Whoever consumes a token goes
by its kind; the text is kept for literals and for messages. Nothing forces the
two to agree: a token made by hand may carry any text, and only the tokens that
a scan returns are known to have the text of their kind.
-/

namespace Reckoner

/-- What a token is. -/
inductive Token.Kind where
  | number
  | openParen
  | closeParen
  | operator (sign : Sign)
deriving DecidableEq, Repr, Inhabited

/-- A token: its kind and its text. -/
structure Token where
  kind : Token.Kind
  value : String
deriving DecidableEq, Repr, Inhabited

namespace Token

/-- The kind in words. -/
def Kind.name : Kind → String
  | .number => "number"
  | .openParen => "open paren"
  | .closeParen => "close paren"
  | .operator .add => "add"
  | .operator .subtract => "subtract"

/-- The kind as one word, as log records show it. -/
def Kind.label : Kind → String
  | .number => "Number"
  | .openParen => "OpenParen"
  | .closeParen => "CloseParen"
  | .operator .add => "Add"
  | .operator .subtract => "Subtract"

/-- A number token with the given text, which is not checked. -/
def number (digits : String) : Token := ⟨.number, digits⟩

/-- The opening parenthesis. -/
def openParen : Token := ⟨.openParen, "("⟩

/-- The closing parenthesis. -/
def closeParen : Token := ⟨.closeParen, ")"⟩

/-- An operator with the text of its sign. -/
def operator (sign : Sign) : Token := ⟨.operator sign, sign.text⟩

/-- The literal of a number token; other kinds have none, whatever their text. -/
def literal? (token : Token) : Option String :=
  if token.kind = .number then some token.value else none

/-- The sign of an operator token; other kinds have none, whatever their text. -/
def sign? (token : Token) : Option Sign :=
  match token.kind with
  | .operator sign => some sign
  | _ => none

/-- Both parts of the token in full, with the text as a quoted literal. -/
def describe (token : Token) : String :=
  "Token \x7b class: " ++ token.kind.label ++ ", value: " ++ Quoted.literal token.value ++ " \x7d"

/-- The texts of the tokens with one space between neighbours. -/
def joined (tokens : List Token) : String :=
  " ".intercalate (tokens.map Token.value)

end Token

end Reckoner
