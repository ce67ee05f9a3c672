import Reckoner.Calculation

/-!
# Log records

Each stage of a calculation leaves records of what it did. A scan records its
tokens with their offsets; a parse records where expressions and operands begin
and which attempts fail; an evaluation that succeeds records the tree with its
value. Failed attempts and values are worth more than the steps between them and
have the higher level.

The records of a text are those of its stages in order, up to and including the
first stage that fails.
-/

namespace Reckoner

/-- How much a record matters. -/
inductive Log.Level where
  | trace
  | debug
deriving DecidableEq, Repr

/-- Which stage a record comes from. -/
inductive Log.Stage where
  | scan
  | parse
  | evaluation
deriving DecidableEq, Repr

/-- A record of the log. -/
structure Log.Record where
  level : Log.Level
  stage : Log.Stage
  message : String
deriving DecidableEq, Repr

namespace Log

/-- The record of a token that was found. -/
def ofLexeme (lexeme : Lexeme) : Record :=
  ⟨.trace, .scan,
    "token " ++ lexeme.token.describe ++ " at " ++ Decimal.writeNat lexeme.offset⟩

/-- The record of an event in a parse. Sending the cursor back leaves none. -/
def ofEvent? : Grammar.Event → Option Record
  | .expressionBegun position _ => some ⟨.trace, .parse, "E at " ++ Decimal.writeNat position⟩
  | .operandBegun position => some ⟨.trace, .parse, "E' at " ++ Decimal.writeNat position⟩
  | .alternativeFailed alternative position error =>
    some ⟨.debug, .parse,
      "E' alternative " ++ Decimal.writeNat alternative.ordinal ++ " failed at " ++
        Decimal.writeNat position ++ ": " ++ error.message⟩
  | .chainEnded position error =>
    some ⟨.debug, .parse, "E ends at " ++ Decimal.writeNat position ++ ": " ++ error.message⟩
  | .sentBack _ _ => none

/-- The records of a scan: its tokens in order, also those in front of a
failure. -/
def ofScan (scan : Scan) : List Record := scan.lexemes.map ofLexeme

/-- The records of parsing a token list. -/
def ofTokens (tokens : List Token) : List Record :=
  (Grammar.parse tokens.toArray).journal.toList.filterMap ofEvent?

/-- The record of evaluating a tree, if it has a value. -/
def ofTree (tree : Tree) : List Record :=
  match tree.value with
  | .ok value => [⟨.debug, .evaluation, tree.text ++ " = " ++ Decimal.write value⟩]
  | .error _ => []

/-- The records of calculating a text. -/
def ofText (text : String) : List Record :=
  let scan := Scan.ofBytes (bytesOf text)
  ofScan scan ++
    match scan.result with
    | .error _ => []
    | .ok tokens =>
      ofTokens tokens ++
        match Tree.ofTokens tokens with
        | .error _ => []
        | .ok tree => ofTree tree

/-- The records that a log set to `level` keeps. -/
def atLevel (level : Level) (records : List Record) : List Record :=
  match level with
  | .trace => records
  | .debug => records.filter fun record => record.level = .debug

end Log

end Reckoner
