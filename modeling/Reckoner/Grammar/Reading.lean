import Reckoner.Grammar.Error

/-!
# The state of a reading

While an expression is read from tokens, three things are carried along: the
cursor, the rejection that reached furthest among those that were put aside, and
a journal of what happened. The rules of the grammar see the cursor only; the
other two are written to and never looked at before the end.

A step ends in an outcome. An accepting outcome holds the evidence that fewer
tokens are left than before, which is what makes the rules total. A rejecting
outcome makes no promise about the cursor.
-/

namespace Reckoner.Grammar

/-- The two ways to read an operand, in the order in which they are tried. -/
inductive Alternative where
  | number
  | parenthesized
deriving DecidableEq, Repr

/-- The place of an alternative in the order of trying, from one. -/
def Alternative.ordinal : Alternative → Nat
  | .number => 1
  | .parenthesized => 2

/-- What a journal tells. Positions count tokens. -/
inductive Event where
  /-- An expression is about to be read. `enclosing` has the positions at which
  the expressions around it were begun, the innermost first. -/
  | expressionBegun (position : Nat) (enclosing : List Nat)
  /-- An operand is about to be read. -/
  | operandBegun (position : Nat)
  /-- An alternative was rejected and left the cursor at `position`. -/
  | alternativeFailed (alternative : Alternative) (position : Nat) (error : ParseError)
  /-- What follows the operand that ends at `position` does not continue the
  chain. -/
  | chainEnded (position : Nat) (error : ParseError)
  /-- The cursor was sent back to `target`, and did or did not move. -/
  | sentBack (target : Nat) (moved : Bool)
deriving DecidableEq, Repr

/-- The state of a reading over `tokens`. -/
structure Reading (tokens : Array Token) where
  cursor : Cursor tokens
  furthest : Option ParseError
  journal : Array Event

/-- The index of the next token. -/
abbrev Reading.pos {tokens : Array Token} (reading : Reading tokens) : Nat := reading.cursor.pos

/-- How many tokens have not been read. -/
abbrev Reading.left {tokens : Array Token} (reading : Reading tokens) : Nat := reading.cursor.left

/-- What a step came to, where `bound` tokens were left before it. -/
inductive Outcome (tokens : Array Token) (bound : Nat) (α : Type) where
  | accepted (value : α) (after : Reading tokens) (advanced : after.left < bound)
  | rejected (error : ParseError) (after : Reading tokens)

/-- A way to send a cursor back. Whether it checks its target is its own affair;
if the cursor moves, it lands on the target. -/
structure Rewind (tokens : Array Token) where
  move : Cursor tokens → Nat → Except CursorError (Cursor tokens)
  lands : ∀ {cursor after target}, move cursor target = .ok after → after.pos = target

/-- The checked way: a cursor is sent back to tokens only. -/
def Rewind.checked {tokens : Array Token} : Rewind tokens where
  move := Cursor.seek
  lands := Cursor.pos_of_seek

/-- The unchecked way: the cursor is simply put at the target. -/
def Rewind.unchecked {tokens : Array Token} : Rewind tokens where
  move _ target := .ok ⟨target⟩
  lands moved := by cases moved; rfl

namespace Reading

variable {tokens : Array Token} {α : Type}

/-- Nothing read, nothing put aside, nothing in the journal. -/
def start (tokens : Array Token) : Reading tokens := ⟨.start tokens, none, #[]⟩

/-- Adds an event to the journal. -/
def log (reading : Reading tokens) (event : Event) : Reading tokens :=
  { reading with journal := reading.journal.push event }

/-- Puts a rejection aside. It replaces the one put aside earlier only if it
reaches further. -/
def note (reading : Reading tokens) (error : ParseError) : Reading tokens :=
  match reading.furthest with
  | none => { reading with furthest := some error }
  | some furthest =>
    if furthest.reach tokens.size < error.reach tokens.size then
      { reading with furthest := some error }
    else reading

/-- The rejection to report when a reading ends with `error`: one that was put
aside if it reaches further. -/
def report (reading : Reading tokens) (error : ParseError) : ParseError :=
  match reading.furthest with
  | none => error
  | some furthest =>
    if error.reach tokens.size < furthest.reach tokens.size then furthest else error

/-- Reads the next token if `choose` makes something of it. A token that is
refused has been read all the same. -/
def take (choose : Token → Option α) (reading : Reading tokens) :
    Outcome tokens reading.left α :=
  match found : reading.cursor.read with
  | .error error => .rejected (.ofCursor error) reading
  | .ok (token, cursor) =>
    match choose token with
    | some value => .accepted value { reading with cursor } (Cursor.left_of_read found)
    | none => .rejected (.unexpectedToken token reading.pos) { reading with cursor }

/-- What came of sending a reading back. -/
inductive SentBack (tokens : Array Token) (target : Nat) where
  | moved (after : Reading tokens) (placed : after.pos = target)
  | refused (error : ParseError) (after : Reading tokens)

/-- Sends the cursor back to `target` and tells the journal. -/
def sendBack (rewind : Rewind tokens) (target : Nat) (reading : Reading tokens) :
    SentBack tokens target :=
  match found : rewind.move reading.cursor target with
  | .ok cursor =>
    .moved { reading.log (.sentBack target true) with cursor } (rewind.lands found)
  | .error error => .refused (.ofCursor error) (reading.log (.sentBack target false))

/-- Telling the journal leaves the cursor where it is. -/
@[simp] theorem cursor_log (reading : Reading tokens) (event : Event) :
    (reading.log event).cursor = reading.cursor := rfl

/-- Putting a rejection aside leaves the cursor where it is, whether or not the rejection
is kept. -/
@[simp] theorem cursor_note (reading : Reading tokens) (error : ParseError) :
    (reading.note error).cursor = reading.cursor := by
  unfold note
  split <;> try split
  all_goals rfl

/-- Putting a rejection aside tells the journal nothing. -/
@[simp] theorem journal_note (reading : Reading tokens) (error : ParseError) :
    (reading.note error).journal = reading.journal := by
  unfold note
  split <;> try split
  all_goals rfl

/-- Two readings at the same position have equally many tokens left. -/
theorem left_eq_of_pos_eq {reading other : Reading tokens} (placed : reading.pos = other.pos) :
    reading.left = other.left := by
  simp only [left, Cursor.left, placed]

end Reading

end Reckoner.Grammar
