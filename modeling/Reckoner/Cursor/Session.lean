import Reckoner.Cursor.Basic

/-!
# Sessions with saved cursors

A session holds one live cursor and a stack of saved copies over the same
tokens. Requests look at the live cursor, move it, save a copy of it, or exchange
it with the copy on top of the stack. Every request is answered, and none that
fails moves a cursor.
-/

namespace Reckoner.Cursor

/-- What a session can be asked to do. -/
inductive Request where
  | size
  | pos
  | isEmpty
  | isExhausted
  | peek
  | read
  | seek (target : Nat)
  | save
  | swap
deriving DecidableEq, Repr

/-- What a session answers. -/
inductive Answer where
  | number (value : Nat)
  | truth (value : Bool)
  | token (value : Token)
  | noToken
  | done
  | noneSaved
  | failed (error : CursorError)
deriving DecidableEq, Repr

/-- The live cursor and the saved copies, the newest first. -/
structure Session (tokens : Array Token) where
  live : Cursor tokens
  saved : List (Cursor tokens)
deriving DecidableEq, Repr

/-- An answer, with the live cursor's state after the request. -/
structure Report where
  answer : Answer
  pos : Nat
  exhausted : Bool
deriving DecidableEq, Repr

namespace Session

variable {tokens : Array Token}

/-- A session at the first token with nothing saved. -/
def start (tokens : Array Token) : Session tokens := ⟨Cursor.start tokens, []⟩

/-- Answers one request. -/
def answer (session : Session tokens) : Request → Answer × Session tokens
  | .size => (.number session.live.size, session)
  | .pos => (.number session.live.pos, session)
  | .isEmpty => (.truth session.live.isEmpty, session)
  | .isExhausted => (.truth session.live.isExhausted, session)
  | .peek =>
    match session.live.peek with
    | some token => (.token token, session)
    | none => (.noToken, session)
  | .read =>
    match session.live.read with
    | .ok (token, after) => (.token token, { session with live := after })
    | .error error => (.failed error, session)
  | .seek target =>
    match session.live.seek target with
    | .ok after => (.done, { session with live := after })
    | .error error => (.failed error, session)
  | .save =>
    (.number (session.saved.length + 1), { session with saved := session.live :: session.saved })
  | .swap =>
    match session.saved with
    | top :: others => (.done, ⟨top, session.live :: others⟩)
    | [] => (.noneSaved, session)

/-- Answers requests in order, each in the session that the one before left. -/
def reports (session : Session tokens) : List Request → List Report
  | [] => []
  | request :: later =>
    let (answer, after) := session.answer request
    ⟨answer, after.live.pos, after.live.isExhausted⟩ :: after.reports later

/-- The session after all requests. -/
def after (session : Session tokens) (requests : List Request) : Session tokens :=
  requests.foldl (fun session request => (session.answer request).2) session

end Session

end Reckoner.Cursor
