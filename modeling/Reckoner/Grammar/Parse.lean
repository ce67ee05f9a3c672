import Reckoner.Grammar.Rules

/-!
# Parsing a token list

A token list is accepted if it is one expression from its first token to its
last. Its tree is a group of the operands and operators in order, with one nested
group for each pair of parentheses. A list that is rejected gets the rejection
that reached furthest, also if that one was put aside on the way and another
ended the reading.
-/

namespace Reckoner.Grammar

/-- What a token list came to, and the journal of its reading. -/
structure Parse where
  result : Except ParseError Tree
  journal : Array Event

variable {tokens : Array Token}

/-- Reads all tokens as one expression, with cursors sent back in the given
way. -/
def parseWith (rewind : Rewind tokens) : Parse :=
  if tokens.isEmpty then ⟨.error .unexpectedEndOfInput, #[]⟩
  else
    match expression rewind [] Tree.emptyGroup (Reading.start tokens) with
    | .rejected error after => ⟨.error (after.report error), after.journal⟩
    | .accepted tree after _ =>
      match after.cursor.peek with
      | none => ⟨.ok tree, after.journal⟩
      | some token => ⟨.error (after.report (.unexpectedToken token after.pos)), after.journal⟩

/-- Reads all tokens as one expression. Cursors are sent back to tokens only. -/
def parse (tokens : Array Token) : Parse := parseWith (Rewind.checked : Rewind tokens)

end Reckoner.Grammar

namespace Reckoner

/-- The tree of a token list that is an expression, else the reason why it is
none. -/
def Tree.ofTokens (tokens : List Token) : Except ParseError Tree :=
  (Grammar.parse tokens.toArray).result

end Reckoner
