import Reckoner.Cursor.Session

/-!
# Where cursors stand

A cursor and any number of copies of it go over one list of tokens. Between operations
each of them may be exchanged with another, so any of them can be the one that is read
from or sent somewhere. Whatever is done with them, every cursor stands in front of a
token or behind the last one, an operation moves only the cursors that it is about, and
one that fails moves none.

Behind the last token a cursor can stand but cannot be sent. It gets there by reading the
last token, or by taking the place of a cursor that is there already.
-/

namespace Reckoner.Cursor

variable {tokens : Array Token}

/-- In front of a token a read takes it and moves behind it. -/
theorem read_inside {cursor : Cursor tokens} (inside : cursor.pos < tokens.size) :
    cursor.read = .ok (tokens[cursor.pos], ⟨cursor.pos + 1⟩) := by
  simp [read, peek, inside]

/-- Behind the last token there is nothing to read. -/
theorem read_ended {cursor : Cursor tokens} (ended : tokens.size ≤ cursor.pos) :
    cursor.read = .error .endOfInput := by
  simp [read, peek, ended]

/-- A seek to a token gets there from anywhere. -/
theorem seek_inside (cursor : Cursor tokens) {target : Nat} (inside : target < tokens.size) :
    cursor.seek target = .ok ⟨target⟩ := by
  simp [seek, size, inside]

/-- A seek to the end of the list or beyond is refused, and the error names the target. -/
theorem seek_outside (cursor : Cursor tokens) {target : Nat} (outside : tokens.size ≤ target) :
    cursor.seek target = .error (.outOfRange target) := by
  simp [seek, size, Nat.not_lt_of_le outside]

/-- What holds of a cursor at any time. -/
structure Sound (cursor : Cursor tokens) : Prop where
  /-- It stands in front of a token or behind the last one. -/
  within : cursor.pos ≤ tokens.size
  /-- A read succeeds in front of a token, takes it and moves behind it. -/
  reads : ∀ token after, cursor.read = .ok (token, after) ↔
    ∃ inside : cursor.pos < tokens.size, token = tokens[cursor.pos] ∧ after.pos = cursor.pos + 1
  /-- A seek succeeds if its target is in front of a token, and lands there. -/
  seeks : ∀ target after, cursor.seek target = .ok after ↔
    target < tokens.size ∧ after.pos = target
  /-- What comes next is what a read would return. -/
  peeks : cursor.peek = cursor.read.toOption.map Prod.fst
  exhausted : cursor.isExhausted = true ↔ cursor.peek = none

/-- All of this follows from where the cursor stands: a read depends on that place alone,
and a seek on its target alone. -/
theorem sound_of_within {cursor : Cursor tokens} (within : cursor.pos ≤ tokens.size) :
    cursor.Sound where
  within := within
  reads token after := by
    constructor
    · intro taken
      rcases Nat.lt_or_ge cursor.pos tokens.size with inside | ended
      · rw [read_inside inside] at taken
        cases taken
        exact ⟨inside, rfl, rfl⟩
      · rw [read_ended ended] at taken
        cases taken
    · rintro ⟨inside, rfl, moved⟩
      rw [read_inside inside, ← moved]
  seeks target after := by
    constructor
    · intro sent
      rcases Nat.lt_or_ge target tokens.size with inside | outside
      · exact ⟨inside, pos_of_seek sent⟩
      · rw [seek_outside cursor outside] at sent
        cases sent
    · rintro ⟨inside, rfl⟩
      exact seek_inside cursor inside
  peeks := by
    unfold read
    cases cursor.peek <;> rfl
  exhausted := by simp [isExhausted, peek]

/-! ## Operations -/

/-- What can be done with a cursor and its copies: what a session can be asked to do, and
an exchange with any of the saved copies. They are numbered from zero in the order in
which they were saved. -/
inductive Operation where
  | request (request : Request)
  | exchange (number : Nat)
deriving DecidableEq, Repr

/-- Answers that say that nothing was done. -/
def Answer.IsRefusal : Answer → Prop
  | .failed _ | .noneSaved => True
  | .number _ | .truth _ | .token _ | .noToken | .done => False

namespace Session

/-- All cursors of a session: the live one at place 0, and behind it the saved copies in
the order in which they were saved. A copy keeps its place when another one is saved. -/
def cursors (session : Session tokens) : List (Cursor tokens) :=
  session.live :: session.saved.reverse

/-- Exchanges the live cursor with a saved copy. -/
def exchange (session : Session tokens) (number : Nat) : Answer × Session tokens :=
  match session.saved.reverse[number]? with
  | some copy => (.done, ⟨copy, (session.saved.reverse.set number session.live).reverse⟩)
  | none => (.noneSaved, session)

/-- Does one operation. -/
def perform (session : Session tokens) : Operation → Answer × Session tokens
  | .request request => session.answer request
  | .exchange number => session.exchange number

/-- The session after all operations. -/
def performAll (session : Session tokens) (operations : List Operation) : Session tokens :=
  operations.foldl (fun session operation => (session.perform operation).2) session

end Session

/-- The number of the saved copy that an operation exchanges the live cursor with. A
session that is asked for an exchange takes the newest copy. -/
def Operation.partner? (session : Session tokens) : Operation → Option Nat
  | .exchange number => some number
  | .request .swap => some (session.saved.length - 1)
  | .request _ => none

/-- The operations that are about the live cursor alone and can move it. -/
def Operation.movesLive : Operation → Bool
  | .request .read | .request (.seek _) => true
  | _ => false

/-- The places of the cursors that an operation may change. -/
def Operation.places (session : Session tokens) (operation : Operation) : List Nat :=
  match operation.partner? session with
  | some number => [0, number + 1]
  | none => if operation.movesLive then [0] else []

namespace Session

variable {session : Session tokens} {operation : Operation}

/-- The newest copy is the last one in the order of saving. -/
theorem answer_swap (session : Session tokens) :
    session.answer .swap = session.exchange (session.saved.length - 1) := by
  obtain ⟨live, saved⟩ := session
  cases saved with
  | nil => rfl
  | cons top others => simp [answer, exchange]

/-- An operation that has a partner exchanges the live cursor with it, however it was asked
to. -/
theorem perform_of_partner {number : Nat} (partner : operation.partner? session = some number) :
    session.perform operation = session.exchange number := by
  cases operation with
  | exchange other =>
    cases partner
    rfl
  | request request =>
    cases request with
    | swap =>
      cases partner
      exact answer_swap session
    | _ => cases partner

/-- What an operation can do to the cursors. -/
inductive Effect (session : Session tokens) : Operation → Answer × Session tokens → Prop where
  /-- A look at the live cursor, or a refusal. -/
  | nothing (operation : Operation) (answer : Answer) : Effect session operation (answer, session)
  | read (inside : session.live.pos < tokens.size) :
      Effect session (.request .read)
        (.token tokens[session.live.pos], { session with live := ⟨session.live.pos + 1⟩ })
  | seek {target : Nat} (inside : target < tokens.size) :
      Effect session (.request (.seek target)) (.done, { session with live := ⟨target⟩ })
  | save (answer : Answer) (accepted : ¬ answer.IsRefusal) :
      Effect session (.request .save) (answer, { session with saved := session.live :: session.saved })
  | exchange {operation : Operation} {number : Nat} {copy : Cursor tokens}
      (partner : operation.partner? session = some number)
      (found : session.cursors[number + 1]? = some copy) :
      Effect session operation
        (.done, ⟨copy, (session.saved.reverse.set number session.live).reverse⟩)

/-- Every operation has one of these effects; a look at the live cursor and a refusal have
that of doing nothing. -/
theorem perform_effect (session : Session tokens) (operation : Operation) :
    Effect session operation (session.perform operation) := by
  cases partner : operation.partner? session with
  | some number =>
    rw [perform_of_partner partner, exchange]
    cases found : session.saved.reverse[number]? with
    | none => exact .nothing operation .noneSaved
    | some copy => exact .exchange partner found
  | none =>
    cases operation with
    | exchange number => cases partner
    | request request =>
      cases request with
      | swap => cases partner
      | size | pos | isEmpty | isExhausted => exact .nothing _ _
      | peek =>
        rw [perform, answer]
        split <;> exact .nothing _ _
      | save => exact .save _ id
      | read =>
        rw [perform, answer]
        rcases Nat.lt_or_ge session.live.pos tokens.size with inside | ended
        · rw [read_inside inside]
          exact .read inside
        · rw [read_ended ended]
          exact .nothing _ _
      | seek target =>
        rw [perform, answer]
        rcases Nat.lt_or_ge target tokens.size with inside | outside
        · rw [seek_inside session.live inside]
          exact .seek inside
        · rw [seek_outside session.live outside]
          exact .nothing _ _

/-- One operation keeps every cursor inside the list. -/
theorem Effect.within {result : Answer × Session tokens}
    (effect : Effect session operation result)
    (within : ∀ cursor ∈ session.cursors, cursor.pos ≤ tokens.size) :
    ∀ cursor ∈ result.2.cursors, cursor.pos ≤ tokens.size := by
  obtain ⟨live, copies⟩ := List.forall_mem_cons.mp within
  cases effect with
  | nothing => exact within
  | read inside => exact List.forall_mem_cons.mpr ⟨inside, copies⟩
  | seek inside => exact List.forall_mem_cons.mpr ⟨Nat.le_of_lt inside, copies⟩
  | save =>
    rw [cursors, List.reverse_cons, List.forall_mem_cons, List.forall_mem_append]
    exact ⟨live, copies, List.forall_mem_singleton.mpr live⟩
  | exchange partner found =>
    rw [cursors, List.reverse_reverse]
    refine List.forall_mem_cons.mpr ⟨within _ (List.mem_of_getElem? found), ?_⟩
    intro cursor member
    rcases List.mem_or_eq_of_mem_set member with kept | rfl
    · exact copies cursor kept
    · exact live

/-- Operations keep every cursor inside the list. -/
theorem performAll_within (operations : List Operation)
    (within : ∀ cursor ∈ session.cursors, cursor.pos ≤ tokens.size) :
    ∀ cursor ∈ (session.performAll operations).cursors, cursor.pos ≤ tokens.size := by
  induction operations generalizing session with
  | nil => exact within
  | cons operation later inductionHypothesis =>
    exact inductionHypothesis ((perform_effect session operation).within within)

/-- A copy is saved behind all cursors. -/
theorem cursors_save (session : Session tokens) :
    Session.cursors ⟨session.live, session.live :: session.saved⟩ =
      session.cursors ++ [session.live] := by
  simp [cursors]

/-- A session starts with one cursor, which stands at the front. -/
theorem start_within (tokens : Array Token) :
    ∀ cursor ∈ (Session.start tokens).cursors, cursor.pos ≤ tokens.size :=
  List.forall_mem_singleton.mpr (Nat.zero_le tokens.size)

/-- An exchange is about the live cursor and its partner. -/
theorem places_of_partner {number : Nat} (partner : operation.partner? session = some number) :
    operation.places session = [0, number + 1] := by
  rw [Operation.places, partner]

/-- The cursors that an operation is not about stay where they are. A copy that is saved
goes behind all of them, so they keep their places, too. -/
theorem Effect.kept {result : Answer × Session tokens}
    (effect : Effect session operation result) {place : Nat}
    (known : place < session.cursors.length) (other : place ∉ operation.places session) :
    result.2.cursors[place]? = session.cursors[place]? := by
  cases effect with
  | nothing => rfl
  | read | seek =>
    cases place with
    | zero => exact absurd List.mem_cons_self other
    | succ place => rfl
  | save =>
    rw [cursors_save, List.getElem?_append_left known]
  | @exchange _ number copy partner found =>
    rw [places_of_partner partner] at other
    cases place with
    | zero => exact absurd List.mem_cons_self other
    | succ place =>
      have apart : number ≠ place := by
        rintro rfl
        exact other (List.mem_cons_of_mem 0 List.mem_cons_self)
      rw [cursors, List.reverse_reverse, cursors, List.getElem?_cons_succ,
        List.getElem?_cons_succ, List.getElem?_set_ne apart]

/-- A cursor becomes exhausted by reading the last token, or by taking the place of a
cursor that is exhausted.

Proof: by what the operation can do. A seek lands in front of a token, a copy that is saved
is a new cursor, and an exchange moves the two partners only. -/
theorem Effect.exhausts {result : Answer × Session tokens}
    (effect : Effect session operation result) {place : Nat} {cursor later : Cursor tokens}
    (before : session.cursors[place]? = some cursor)
    (behind : result.2.cursors[place]? = some later)
    (running : cursor.isExhausted = false) (exhausted : later.isExhausted = true) :
    (operation = .request .read ∧ place = 0 ∧ cursor.pos + 1 = tokens.size ∧
      ∃ last, tokens[cursor.pos]? = some last ∧ result.1 = .token last) ∨
    ∃ number, operation.partner? session = some number ∧
      (place = 0 ∧ session.cursors[number + 1]? = some later ∨
        place = number + 1 ∧ session.cursors[0]? = some later) := by
  have ended : tokens.size ≤ later.pos := of_decide_eq_true exhausted
  have unchanged : session.cursors[place]? ≠ some later := by
    intro same
    cases before.symm.trans same
    rw [running] at exhausted
    cases exhausted
  cases effect with
  | nothing => exact absurd behind unchanged
  | read inside =>
    cases place with
    | succ place => exact absurd behind unchanged
    | zero =>
      cases before
      cases behind
      have last : tokens.size ≤ session.live.pos + 1 := ended
      exact .inl ⟨rfl, rfl, by omega, _, Array.getElem?_eq_getElem inside, rfl⟩
  | @seek target inside =>
    cases place with
    | succ place => exact absurd behind unchanged
    | zero =>
      cases behind
      exact absurd inside (Nat.not_lt_of_le ended)
  | save =>
    have known : place < session.cursors.length := (List.getElem?_eq_some_iff.mp before).1
    rw [cursors_save, List.getElem?_append_left known] at behind
    exact absurd behind unchanged
  | @exchange _ number copy partner found =>
    refine .inr ⟨number, partner, ?_⟩
    have copied : session.saved.reverse[number]? = some copy := found
    rw [cursors, List.reverse_reverse] at behind
    cases place with
    | zero =>
      cases behind
      exact .inl ⟨rfl, found⟩
    | succ place =>
      rw [List.getElem?_cons_succ] at behind
      by_cases same : number = place
      · subst same
        rw [List.getElem?_set_self (List.getElem?_eq_some_iff.mp copied).1] at behind
        exact .inr ⟨rfl, behind⟩
      · rw [List.getElem?_set_ne same] at behind
        exact absurd behind unchanged

/-- Whatever can be done with the cursors of a session is done in good order. -/
structure Orderly (session : Session tokens) : Prop where
  /-- An operation that fails leaves all cursors where they are. -/
  refused : ∀ operation, (session.perform operation).1.IsRefusal →
    (session.perform operation).2 = session
  /-- An operation leaves the cursors where they are that it is not about. -/
  kept : ∀ operation, ∀ place < session.cursors.length, place ∉ operation.places session →
    (session.perform operation).2.cursors[place]? = session.cursors[place]?
  /-- A read in front of a token answers with it and moves the live cursor behind it. -/
  reads : ∀ inside : session.live.pos < tokens.size, session.perform (.request .read) =
    (.token tokens[session.live.pos], { session with live := ⟨session.live.pos + 1⟩ })
  ends : tokens.size ≤ session.live.pos →
    session.perform (.request .read) = (.failed .endOfInput, session)
  /-- A seek sends the live cursor to its target if that is in front of a token. -/
  seeks : ∀ target < tokens.size, session.perform (.request (.seek target)) =
    (.done, { session with live := ⟨target⟩ })
  strays : ∀ target, tokens.size ≤ target →
    session.perform (.request (.seek target)) = (.failed (.outOfRange target), session)
  /-- A look at what comes next shows the token that a read would return. -/
  peeks : ∀ token, (session.perform (.request .peek)).1 = .token token ↔
    (session.perform (.request .read)).1 = .token token
  exhausted : (session.perform (.request .isExhausted)).1 = .truth true ↔
    (session.perform (.request .peek)).1 = .noToken
  /-- A copy stands where the live cursor does. -/
  saved : (session.perform (.request .save)).2.cursors = session.cursors ++ [session.live]
  /-- Two cursors that are exchanged stand where the other one stood. -/
  exchanged : ∀ operation number copy, operation.partner? session = some number →
    session.cursors[number + 1]? = some copy →
    (session.perform operation).2.cursors =
      (session.cursors.set 0 copy).set (number + 1) session.live
  /-- A cursor becomes exhausted by reading the last token, or in an exchange with a
  cursor that is exhausted. -/
  exhausts : ∀ operation place cursor later, session.cursors[place]? = some cursor →
    (session.perform operation).2.cursors[place]? = some later →
    cursor.isExhausted = false → later.isExhausted = true →
    (operation = .request .read ∧ place = 0 ∧ cursor.pos + 1 = tokens.size ∧
      ∃ last, tokens[cursor.pos]? = some last ∧ (session.perform operation).1 = .token last) ∨
    ∃ number, operation.partner? session = some number ∧
      (place = 0 ∧ session.cursors[number + 1]? = some later ∨
        place = number + 1 ∧ session.cursors[0]? = some later)

/-- Every session is orderly. Where its cursors stand does not matter for this. -/
theorem orderly (session : Session tokens) : session.Orderly where
  refused operation refused := by
    have effect := perform_effect session operation
    generalize session.perform operation = result at effect refused
    cases effect with
    | nothing => rfl
    | read | seek | exchange => exact refused.elim
    | save _ accepted => exact absurd refused accepted
  kept operation place known other := (perform_effect session operation).kept known other
  reads inside := by rw [perform, answer, read_inside inside]
  ends ended := by rw [perform, answer, read_ended ended]
  seeks target inside := by rw [perform, answer, seek_inside session.live inside]
  strays target outside := by rw [perform, answer, seek_outside session.live outside]
  peeks token := by
    simp only [perform, answer, read]
    cases session.live.peek <;> simp
  exhausted := by
    simp only [perform, answer, isExhausted, peek]
    cases next : tokens[session.live.pos]? with
    | none => simp [Array.getElem?_eq_none_iff.mp next]
    | some token => simp [(Array.getElem?_eq_some_iff.mp next).1]
  saved := cursors_save session
  exchanged operation number copy partner found := by
    have copied : session.saved.reverse[number]? = some copy := found
    rw [perform_of_partner partner, exchange, copied]
    simp [cursors]
  exhausts operation place cursor later before behind running exhausted :=
    (perform_effect session operation).exhausts before behind running exhausted

end Session

/-- Whatever is done with a cursor and its copies, from the first token on, leaves each
of them in front of a token or behind the last one, where the next operation finds them
in good order. What a session is asked to do is done with them in the same way. -/
theorem cursors_stay_sound (tokens : Array Token) (operations : List Operation) :
    (∀ cursor ∈ ((Session.start tokens).performAll operations).cursors, cursor.Sound) ∧
    ((Session.start tokens).performAll operations).Orderly ∧
    ∀ requests : List Request, (Session.start tokens).after requests =
      (Session.start tokens).performAll (requests.map .request) := by
  refine ⟨fun cursor member => ?_, Session.orderly _, fun requests => ?_⟩
  · exact sound_of_within (Session.performAll_within operations (Session.start_within tokens)
      cursor member)
  · rw [Session.performAll, List.foldl_map]
    rfl

/-- The copy is in front of the token that the live cursor has read, and then the two are
exchanged. The seek in between names no token. -/
example : ((Session.start #[.number "1"]).performAll
    [.request .save, .request .read, .request (.seek 1), .exchange 0]).cursors = [⟨0⟩, ⟨1⟩] := by
  decide

end Reckoner.Cursor
