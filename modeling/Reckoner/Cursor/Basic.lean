import Reckoner.Text.Decimal
import Reckoner.Token.Basic

/-!
# Read positions in a token list

A cursor is a position in a fixed array of tokens. It moves forward by reading
and anywhere by seeking, but a seek must name a token: the position behind the
last token, where everything has been read, can be reached by reading only. The
array is part of the cursor's type, so a copy reads the same tokens.
-/

namespace Reckoner

/-- Why a cursor did not move. -/
inductive CursorError where
  | endOfInput
  | outOfRange (target : Nat)
deriving DecidableEq, Repr, Inhabited

/-- The message for a cursor that did not move. -/
def CursorError.message : CursorError → String
  | .endOfInput => "end of input"
  | .outOfRange target => "seek out of range: " ++ Decimal.writeNat target

/-- A read position over `tokens`: the index of the next token. -/
structure Cursor (tokens : Array Token) where
  pos : Nat
deriving DecidableEq, Repr

namespace Cursor

variable {tokens : Array Token}

/-- The position before the first token. -/
def start (tokens : Array Token) : Cursor tokens := ⟨0⟩

/-- How many tokens there are, read or not. -/
def size (_ : Cursor tokens) : Nat := tokens.size

/-- Whether there are no tokens at all. -/
def isEmpty (_ : Cursor tokens) : Bool := tokens.isEmpty

/-- How many tokens have not been read. -/
def left (cursor : Cursor tokens) : Nat := tokens.size - cursor.pos

/-- Whether everything has been read. -/
def isExhausted (cursor : Cursor tokens) : Bool := tokens.size ≤ cursor.pos

/-- The next token, which stays unread. -/
def peek (cursor : Cursor tokens) : Option Token := tokens[cursor.pos]?

/-- Takes the next token and moves behind it. -/
def read (cursor : Cursor tokens) : Except CursorError (Token × Cursor tokens) :=
  match cursor.peek with
  | some token => .ok (token, ⟨cursor.pos + 1⟩)
  | none => .error .endOfInput

/-- Moves in front of the token with index `target`. -/
def seek (cursor : Cursor tokens) (target : Nat) : Except CursorError (Cursor tokens) :=
  if target < cursor.size then .ok ⟨target⟩ else .error (.outOfRange target)

/-- A read that succeeds leaves fewer tokens. -/
theorem left_of_read {cursor after : Cursor tokens} {token : Token}
    (taken : cursor.read = .ok (token, after)) : after.left < cursor.left := by
  unfold read at taken
  split at taken
  · rename_i found
    obtain ⟨inside, -⟩ := Array.getElem?_eq_some_iff.mp found
    cases taken
    simp only [left]
    omega
  · cases taken

/-- A seek that succeeds lands where it was sent. -/
theorem pos_of_seek {cursor after : Cursor tokens} {target : Nat}
    (moved : cursor.seek target = .ok after) : after.pos = target := by
  unfold seek at moved
  split at moved
  · cases moved
    rfl
  · cases moved

end Cursor

end Reckoner
