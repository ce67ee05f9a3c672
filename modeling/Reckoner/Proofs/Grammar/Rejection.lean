import Reckoner.Proofs.Grammar.Acceptance
import Reckoner.Proofs.Grammar.Expectation

/-!
# What a parse reports

All rejections that rules make blame a position: the token there, or the end of
the list. Two that reach equally far are therefore equal, and of those put aside
only the largest position has to be known.

A rule can end early. A chain that cannot go on is cut back to its last operand,
and the level around it then fails at an operator that was read before. By that
time the real fault has been put aside, and the reported rejection is the one
that reaches furthest. The run lemma of this module says where the first
unexpected token stands whenever a rule fails or stops in front of it.
-/

namespace Reckoner.Grammar

variable {tokens : Array Token}

/-- Blame reaches to the blamed position. -/
theorem reach_blame {position : Nat} (within : position ≤ tokens.size) :
    (blame tokens position).reach tokens.size = position := by
  rcases Nat.lt_or_eq_of_le within with inside | rfl
  · rw [blame_of_token (Array.getElem?_eq_getElem inside)]
    rfl
  · rw [blame_of_end (Array.getElem?_eq_none (Nat.le_refl _))]
    rfl

/-- Blame within the list tells the position. -/
theorem blame_injective {position other : Nat} (within : position ≤ tokens.size)
    (otherWithin : other ≤ tokens.size) (same : blame tokens position = blame tokens other) :
    position = other := by
  rw [← reach_blame within, same, reach_blame otherWithin]

namespace Reading

/-- Of the rejections put aside, the furthest reaches to `position`; without any
the position is zero. -/
def Noted (reading : Reading tokens) (position : Nat) : Prop :=
  match reading.furthest with
  | none => position = 0
  | some error => position ≤ tokens.size ∧ error = blame tokens position

/-- Putting blame aside keeps the larger position. -/
theorem Noted.note {reading : Reading tokens} {furthest position : Nat}
    (noted : reading.Noted furthest) (within : position ≤ tokens.size) :
    (reading.note (blame tokens position)).Noted (max furthest position) := by
  obtain ⟨cursor, aside, journal⟩ := reading
  cases aside with
  | none =>
    obtain rfl : furthest = 0 := noted
    exact ⟨by omega, by simp⟩
  | some error =>
    obtain ⟨furthestWithin, rfl⟩ := noted
    simp only [Reading.note, reach_blame furthestWithin, reach_blame within]
    by_cases further : furthest < position
    · rw [if_pos further]
      exact ⟨by omega, by rw [Nat.max_eq_right (Nat.le_of_lt further)]⟩
    · rw [if_neg further]
      exact ⟨by omega, by rw [Nat.max_eq_left (by omega)]⟩

/-- The report blames the larger of the position put aside and the last one. -/
theorem Noted.report {reading : Reading tokens} {furthest position : Nat}
    (noted : reading.Noted furthest) (within : position ≤ tokens.size) :
    reading.report (blame tokens position) = blame tokens (max furthest position) := by
  obtain ⟨cursor, aside, journal⟩ := reading
  cases aside with
  | none =>
    obtain rfl : furthest = 0 := noted
    simp [Reading.report]
  | some error =>
    obtain ⟨furthestWithin, rfl⟩ := noted
    simp only [Reading.report, reach_blame furthestWithin, reach_blame within]
    by_cases further : position < furthest
    · rw [if_pos further, Nat.max_eq_left (Nat.le_of_lt further)]
    · rw [if_neg further, Nat.max_eq_right (by omega)]

/-- At the start nothing has been put aside. -/
theorem noted_start : (start tokens).Noted 0 := rfl

/-- The journal and the cursor do not matter for what is put aside. -/
theorem Noted.log {reading : Reading tokens} {furthest : Nat} (noted : reading.Noted furthest)
    (event : Event) : (reading.log event).Noted furthest := noted

/-- Going past a token puts nothing aside. -/
theorem Noted.past {reading : Reading tokens} {furthest : Nat} (noted : reading.Noted furthest) :
    reading.past.Noted furthest := noted

/-- Skipping puts nothing aside, whether or not there is a token to skip. -/
theorem Noted.skip {reading : Reading tokens} {furthest : Nat} (noted : reading.Noted furthest) :
    reading.skip.Noted furthest := by
  unfold Reading.skip
  split <;> exact noted

/-- In front of an operand that is no number, its first token is put aside. -/
theorem Noted.noNumber {reading : Reading tokens} {furthest : Nat}
    (noted : reading.Noted furthest) (within : reading.pos ≤ tokens.size) :
    reading.noNumber.Noted (max furthest reading.pos) := Noted.note noted within

/-- An operand that is given up puts aside what it failed with. -/
theorem Noted.noOperand {reading : Reading tokens} {furthest position : Nat}
    (noted : reading.Noted furthest) (start : Nat) (within : position ≤ tokens.size) :
    (reading.noOperand start (blame tokens position)).Noted (max furthest position) :=
  Noted.note noted within

/-- A chain that ends puts aside what its next step failed with. -/
theorem Noted.endAt {reading : Reading tokens} {furthest position : Nat}
    (noted : reading.Noted furthest) (start : Nat) (within : position ≤ tokens.size) :
    (reading.endAt start (blame tokens position)).Noted (max furthest position) :=
  Noted.note noted within

/-- The position put aside may be written in any way. The rules leave nested maxima behind,
and the run lemma states one. -/
theorem Noted.of_eq {reading : Reading tokens} {furthest position : Nat}
    (noted : reading.Noted furthest) (same : furthest = position) : reading.Noted position :=
  same ▸ noted

/-- The fault of the unread tokens where something is due. -/
def fault (expectation : Expectation) (reading : Reading tokens) : Option ParseError :=
  expectation.fault reading.pos reading.unread

/-- An expected token hands the fault on to the tokens behind it. -/
theorem fault_of_expected {reading : Reading tokens} {token : Token}
    {expectation following : Expectation} (next : reading.cursor.peek = some token)
    (expected : expectation.next token.kind = some following) :
    reading.fault expectation = reading.past.fault following := by
  rw [fault, unread_of_peek next, Expectation.fault, expected]
  rfl

/-- A number is an operand, and behind it an operator is due. -/
theorem fault_of_number {reading : Reading tokens} {token : Token}
    (next : reading.cursor.peek = some token) (kind : token.kind = .number) (opened : Nat) :
    reading.fault (.operand opened) = reading.past.fault (.operator opened) :=
  fault_of_expected next (by rw [kind]; rfl)

/-- An opening parenthesis leaves an operand due, with one more parenthesis open. -/
theorem fault_of_openParen {reading : Reading tokens} {token : Token}
    (next : reading.cursor.peek = some token) (kind : token.kind = .openParen) (opened : Nat) :
    reading.fault (.operand opened) = reading.past.fault (.operand (opened + 1)) :=
  fault_of_expected next (by rw [kind]; rfl)

/-- A closing parenthesis leaves an operator due, with one parenthesis less open. There has
to be one. -/
theorem fault_of_closeParen {reading : Reading tokens} {token : Token}
    (next : reading.cursor.peek = some token) (kind : token.kind = .closeParen) (opened : Nat) :
    reading.fault (.operator (opened + 1)) = reading.past.fault (.operator opened) :=
  fault_of_expected next (by rw [kind]; rfl)

/-- An operator makes an operand due, at the same depth. -/
theorem fault_of_sign {reading : Reading tokens} {token : Token} {sign : Sign}
    (next : reading.cursor.peek = some token) (isSign : token.sign? = some sign) (opened : Nat) :
    reading.fault (.operator opened) = reading.past.fault (.operand opened) := by
  have kind : token.kind = .operator sign := congrArg Prod.fst (Token.essence_of_sign isSign)
  exact fault_of_expected next (by rw [kind]; rfl)

/-- An unexpected token is the fault itself. -/
theorem fault_of_unexpected {reading : Reading tokens} {token : Token}
    {expectation : Expectation} (next : reading.cursor.peek = some token)
    (unexpected : expectation.next token.kind = none) :
    reading.fault expectation = some (blame tokens reading.pos) := by
  rw [fault, unread_of_peek next, Expectation.fault, unexpected, blame_of_token next]

/-- At the end of the list the end is the fault, unless nothing more is due. -/
theorem fault_of_end {reading : Reading tokens} {expectation : Expectation}
    (ended : reading.cursor.peek = none) (more : expectation ≠ .operator 0) :
    reading.fault expectation = some (blame tokens reading.pos) := by
  rw [fault, (unread_eq_nil_iff reading).mpr ended, Expectation.fault, if_neg more,
    blame_of_end ended]

/-- Where an operator may follow, nothing is wrong before `position`. In front of a
closing parenthesis and at the end it depends on what is around whether anything
is wrong at all; otherwise the fault is known, and is put aside unless it is the
next token. -/
def Stuck (reading : Reading tokens) (position : Nat) : Prop :=
  match reading.cursor.peek with
  | none => position ≤ reading.pos
  | some token =>
    if token.kind = .closeParen then position ≤ reading.pos
    else ∀ opened, reading.fault (.operator opened) = some (blame tokens (max reading.pos position))

/-- Of a reading only the cursor matters for where it is stuck. -/
theorem Stuck.of_cursor {reading other : Reading tokens} {position : Nat}
    (stuck : reading.Stuck position) (same : reading.cursor = other.cursor) :
    other.Stuck position := by
  obtain ⟨cursor, aside, journal⟩ := reading
  obtain ⟨_, otherAside, otherJournal⟩ := other
  cases same
  exact stuck

/-- Inside parentheses, a reading that is stuck and not in front of a closing one
has its fault. -/
theorem Stuck.fault_inside {reading : Reading tokens} {position : Nat}
    (stuck : reading.Stuck position)
    (missing : ∀ token, reading.cursor.peek = some token → token.kind ≠ .closeParen)
    (opened : Nat) :
    reading.fault (.operator (opened + 1)) = some (blame tokens (max reading.pos position)) := by
  unfold Stuck at stuck
  cases next : reading.cursor.peek with
  | none =>
    rw [next] at stuck
    have more : Expectation.operator (opened + 1) ≠ .operator 0 := by simp
    rw [fault_of_end next more, Nat.max_eq_left stuck]
  | some token =>
    rw [next] at stuck
    simp only [if_neg (missing token next)] at stuck
    exact stuck (opened + 1)

/-- What was put aside before the reading got here does not matter. -/
theorem Stuck.max {reading : Reading tokens} {earlier position : Nat}
    (stuck : reading.Stuck position) (before : earlier ≤ reading.pos) :
    reading.Stuck (max earlier position) := by
  unfold Stuck at *
  split at stuck
  · omega
  · split at stuck
    · rw [if_pos ‹_›]
      omega
    · rw [if_neg ‹_›]
      intro opened
      rw [stuck opened]
      congr 2
      omega

/-- A reading in front of an operator is stuck with the fault behind the operator. -/
theorem stuck_of_operator {reading : Reading tokens} {token : Token} {sign : Sign}
    {position : Nat} (next : reading.cursor.peek = some token)
    (isSign : token.sign? = some sign) (further : reading.pos ≤ position)
    (located : ∀ opened, reading.past.fault (.operand opened) = some (blame tokens position)) :
    reading.Stuck position := by
  have kind : token.kind = .operator sign := congrArg Prod.fst (Token.essence_of_sign isSign)
  simp only [Stuck, next, kind, reduceCtorEq, if_false]
  intro opened
  rw [Nat.max_eq_right further, ← located opened]
  exact fault_of_sign next isSign opened

end Reading

/-- What a run has to do with the first fault of its tokens, where `position` is
the largest position put aside in the run. -/
def Locates (rule : Rule) (reading : Reading tokens) (answer : Except ParseError (List Tree))
    (after : Reading tokens) (position : Nat) : Prop :=
  match rule, answer with
  | .operand, .ok _ => position < after.pos ∧
      ∀ opened, reading.fault (.operand opened) = after.fault (.operator opened)
  | .expression, .ok _ => after.Stuck position ∧
      ∀ opened, reading.fault (.operand opened) = after.fault (.operator opened)
  | .chain, .ok _ => after.Stuck position ∧
      ∀ opened, reading.fault (.operator opened) = after.fault (.operator opened)
  | _, .error error => reading.pos ≤ position ∧
      (∃ last ≤ position, error = blame tokens last) ∧
      ∀ opened, reading.fault (.operand opened) = some (blame tokens position)

namespace Locates

/-! What was put aside matters by its position only, and of the readings only the
cursors. The following lemmas go from the parts of a rule to the whole. -/

variable {rule : Rule} {reading behind after : Reading tokens} {token : Token} {position : Nat}
variable {forest later : List Tree}

/-- A token that starts no operand is the fault. -/
theorem stray (next : reading.cursor.peek = some token) (notNumber : token.kind ≠ .number)
    (notOpen : token.kind ≠ .openParen) :
    Locates .operand reading (.error (blame tokens reading.pos)) after reading.pos := by
  refine ⟨Nat.le_refl _, ⟨_, Nat.le_refl _, rfl⟩, ?_⟩
  intro opened
  apply Reading.fault_of_unexpected next
  cases kind : token.kind with
  | number => exact absurd kind notNumber
  | openParen => exact absurd kind notOpen
  | closeParen | operator sign => rfl

/-- Behind an opening parenthesis the end is the fault. -/
theorem openAtEnd (next : reading.cursor.peek = some token) (kind : token.kind = .openParen)
    (last : tokens.size = reading.pos + 1) :
    Locates .operand reading (.error (blame tokens (reading.pos + 1))) after
      (reading.pos + 1) := by
  have ended : reading.past.cursor.peek = none := Array.getElem?_eq_none (Nat.le_of_eq last)
  refine ⟨Nat.le_succ _, ⟨_, Nat.le_refl _, rfl⟩, ?_⟩
  intro opened
  rw [Reading.fault_of_openParen next kind]
  exact Reading.fault_of_end ended (by simp)

/-- What is wrong inside parentheses is the fault of the operand. -/
theorem insideRejected {error : ParseError}
    (inner : Locates .expression reading.past (.error error) behind position)
    (next : reading.cursor.peek = some token) (kind : token.kind = .openParen) :
    Locates .operand reading (.error error) after position := by
  obtain ⟨start, blamed, located⟩ := inner
  refine ⟨Nat.le_of_succ_le start, blamed, ?_⟩
  intro opened
  rw [← located (opened + 1)]
  exact Reading.fault_of_openParen next kind opened

/-- Where something else than the closing parenthesis follows, the expression
inside is stuck with the fault. -/
theorem unclosed (inner : Locates .expression reading.past (.ok forest) behind position)
    (next : reading.cursor.peek = some token) (kind : token.kind = .openParen)
    (missing : ∀ other, behind.cursor.peek = some other → other.kind ≠ .closeParen)
    (forward : reading.pos < behind.pos) :
    Locates .operand reading (.error (blame tokens behind.pos)) after
      (max behind.pos position) := by
  obtain ⟨stuck, same⟩ := inner
  refine ⟨by omega, ⟨behind.pos, by omega, rfl⟩, ?_⟩
  intro opened
  have opens : reading.fault (.operand opened) = behind.fault (.operator (opened + 1)) := by
    rw [← same (opened + 1)]
    exact Reading.fault_of_openParen next kind opened
  rw [opens]
  exact stuck.fault_inside missing opened

/-- Parentheses hand the fault on to what follows them. -/
theorem closed {closing : Token}
    (inner : Locates .expression reading.past (.ok forest) behind position)
    (next : reading.cursor.peek = some token) (kind : token.kind = .openParen)
    (found : behind.cursor.peek = some closing) (closes : closing.kind = .closeParen)
    (forward : reading.pos < behind.pos) :
    Locates .operand reading (.ok [.node .group forest]) behind.past
      (max reading.pos position) := by
  obtain ⟨stuck, same⟩ := inner
  simp only [Reading.Stuck, found, closes, if_true] at stuck
  constructor
  · rw [Reading.pos_past]
    omega
  · intro opened
    have opens : reading.fault (.operand opened) = behind.fault (.operator (opened + 1)) := by
      rw [← same (opened + 1)]
      exact Reading.fault_of_openParen next kind opened
    rw [opens]
    exact Reading.fault_of_closeParen found closes opened

/-- An operator and an operand hand the fault on to the chain behind them. -/
theorem linked {sign : Sign} {linkPosition restPosition : Nat}
    (next : reading.cursor.peek = some token) (isSign : token.sign? = some sign)
    (link : Locates .operand reading.past (.ok forest) behind linkPosition)
    (rest : Locates .chain behind (.ok later) after restPosition)
    (forward : behind.pos ≤ after.pos) :
    Locates .chain reading (.ok (.operator sign :: forest ++ later)) after
      (max linkPosition restPosition) := by
  obtain ⟨before, linkSame⟩ := link
  obtain ⟨stuck, restSame⟩ := rest
  refine ⟨stuck.max (Nat.le_trans (Nat.le_of_lt before) forward), ?_⟩
  intro opened
  rw [← restSame opened, ← linkSame opened]
  exact Reading.fault_of_sign next isSign opened

/-- An operand hands the fault on to the chain behind it. -/
theorem led {leadPosition restPosition : Nat}
    (lead : Locates .operand reading (.ok forest) behind leadPosition)
    (rest : Locates .chain behind (.ok later) after restPosition)
    (forward : behind.pos ≤ after.pos) :
    Locates .expression reading (.ok (forest ++ later)) after
      (max leadPosition restPosition) := by
  obtain ⟨before, leadSame⟩ := lead
  obtain ⟨stuck, restSame⟩ := rest
  refine ⟨stuck.max (Nat.le_trans (Nat.le_of_lt before) forward), ?_⟩
  intro opened
  exact (leadSame opened).trans (restSame opened)

end Locates

/-- In front of a token that is no operator, the token is the fault unless it
closes a parenthesis. -/
theorem Reading.stuck_of_noOperator {reading : Reading tokens} {token : Token}
    (next : reading.cursor.peek = some token) (notSign : token.sign? = none) :
    reading.Stuck reading.pos := by
  simp only [Stuck, next]
  split
  · exact Nat.le_refl _
  · rename_i notClose
    intro opened
    rw [Nat.max_self]
    apply fault_of_unexpected next
    cases kind : token.kind with
    | closeParen => exact absurd kind notClose
    | operator sign => simp [Token.sign?, kind] at notSign
    | number | openParen => rfl

/-- Behind an operator at the end of the list, the end is the fault. -/
theorem Reading.stuck_of_operatorAtEnd {reading : Reading tokens} {token : Token} {sign : Sign}
    (next : reading.cursor.peek = some token) (isSign : token.sign? = some sign)
    (last : tokens.size = reading.pos + 1) : reading.Stuck (reading.pos + 1) := by
  have ended : reading.past.cursor.peek = none := Array.getElem?_eq_none (Nat.le_of_eq last)
  have located (opened : Nat) : reading.past.fault (.operand opened) =
      some (blame tokens (reading.pos + 1)) := fault_of_end ended (by simp)
  exact stuck_of_operator next isSign (Nat.le_succ _) located

/-- Every run puts the first fault aside, or stops in front of it.

Proof: induction on the run. -/
theorem Run.locates {around : List Nat} {rule : Rule} {reading after : Reading tokens}
    {answer : Except ParseError (List Tree)} (run : Run around rule reading answer after)
    (within : reading.pos ≤ tokens.size) {furthest : Nat} (noted : reading.Noted furthest) :
    ∃ position ≤ tokens.size, after.Noted (max furthest position) ∧
      Locates rule reading answer after position := by
  induction run generalizing furthest with
  | number next kind =>
    exact ⟨0, Nat.zero_le _, (noted.log _).past.of_eq (by omega), Nat.succ_pos _,
      fun opened => Reading.fault_of_number next kind opened⟩
  | @stray _ reading token next notNumber notOpen =>
    have aside := (noted.noNumber within).past.noOperand reading.pos within
    exact ⟨reading.pos, within, aside.of_eq (by omega), .stray next notNumber notOpen⟩
  | @openAtEnd _ reading token next kind last =>
    have stop : reading.pos + 1 ≤ tokens.size := Nat.le_of_eq last.symm
    have aside := (noted.noNumber within).past.noOperand reading.pos stop
    exact ⟨reading.pos + 1, stop, aside.of_eq (by omega), .openAtEnd next kind last⟩
  | @insideRejected _ reading behind token error next kind inside inductionHypothesis =>
    obtain ⟨position, bound, aside, located⟩ :=
      inductionHypothesis (Reading.inside_of_peek next) (noted.noNumber within).past
    obtain ⟨start, ⟨last, before, rfl⟩, _⟩ := id located
    have lastWithin : last ≤ tokens.size := Nat.le_trans before bound
    simp only [Reading.pos_past, Reading.pos_noNumber] at start
    have inner : Locates .expression reading.past (.error (blame tokens last)) behind position :=
      located
    exact ⟨position, bound, (aside.noOperand reading.pos lastWithin).of_eq (by omega),
      inner.insideRejected next kind⟩
  | @unclosed _ reading behind token forest next kind inside missing inductionHypothesis =>
    have start : reading.noNumber.past.pos ≤ tokens.size := Reading.inside_of_peek next
    obtain ⟨position, bound, aside, located⟩ :=
      inductionHypothesis start (noted.noNumber within).past
    obtain ⟨behindWithin, forward⟩ := inside.moves start
    simp only [Run.Moves, Reading.pos_past, Reading.pos_noNumber] at forward
    have noted := aside.skip.noOperand reading.pos behindWithin
    have inner : Locates .expression reading.past (.ok forest) behind position := located
    exact ⟨max behind.pos position, by omega, noted.of_eq (by omega),
      inner.unclosed next kind missing (Nat.lt_of_succ_lt forward)⟩
  | @closed _ reading behind token closing forest next kind inside found closes
      inductionHypothesis =>
    have start : reading.noNumber.past.pos ≤ tokens.size := Reading.inside_of_peek next
    obtain ⟨position, bound, aside, located⟩ :=
      inductionHypothesis start (noted.noNumber within).past
    obtain ⟨_, forward⟩ := inside.moves start
    simp only [Run.Moves, Reading.pos_past, Reading.pos_noNumber] at forward
    have inner : Locates .expression reading.past (.ok forest) behind position := located
    exact ⟨max reading.pos position, by omega, aside.past.of_eq (by omega),
      inner.closed next kind found closes (Nat.lt_of_succ_lt forward)⟩
  | exhausted ended =>
    exact ⟨0, Nat.zero_le _, noted.of_eq (by omega), by simp [Reading.Stuck, ended], fun _ => rfl⟩
  | @noOperator _ reading token next notSign =>
    have here : (reading.past.endAt reading.pos (blame tokens reading.pos)).cursor.peek =
      some token := next
    exact ⟨reading.pos, within, noted.past.endAt _ within,
      Reading.stuck_of_noOperator here notSign, fun _ => rfl⟩
  | @operatorAtEnd _ reading token sign next isSign last =>
    have stop : reading.pos + 1 ≤ tokens.size := Nat.le_of_eq last.symm
    have here : (reading.past.endAt reading.pos (blame tokens (reading.pos + 1))).cursor.peek =
      some token := next
    exact ⟨reading.pos + 1, stop, noted.past.endAt _ stop,
      Reading.stuck_of_operatorAtEnd here isSign last, fun _ => rfl⟩
  | @linkRejected _ reading behind token sign error next isSign link inductionHypothesis =>
    obtain ⟨position, bound, aside, start, ⟨last, before, rfl⟩, located⟩ :=
      inductionHypothesis (Reading.inside_of_peek next) noted.past
    have lastWithin : last ≤ tokens.size := Nat.le_trans before bound
    refine ⟨position, bound, (aside.endAt reading.pos lastWithin).of_eq (by omega), ?_,
      fun _ => rfl⟩
    exact Reading.stuck_of_operator next isSign (Nat.le_of_succ_le start) located
  | @linked _ reading behind after token sign forest later next isSign link rest linkHypothesis
      restHypothesis =>
    have inner : reading.past.pos ≤ tokens.size := Reading.inside_of_peek next
    obtain ⟨linkPosition, linkBound, linkAside, linkLocated⟩ := linkHypothesis inner noted.past
    obtain ⟨behindWithin, _⟩ := link.moves inner
    obtain ⟨restPosition, restBound, restAside, restLocated⟩ :=
      restHypothesis behindWithin linkAside
    obtain ⟨_, forward⟩ := rest.moves behindWithin
    exact ⟨max linkPosition restPosition, by omega, restAside.of_eq (by omega),
      .linked next isSign linkLocated restLocated forward⟩
  | leadRejected lead inductionHypothesis => exact inductionHypothesis within noted
  | @led _ reading behind after forest later lead rest leadHypothesis restHypothesis =>
    obtain ⟨leadPosition, leadBound, leadAside, leadLocated⟩ :=
      leadHypothesis within (noted.log _)
    obtain ⟨behindWithin, _⟩ := lead.moves within
    obtain ⟨restPosition, restBound, restAside, restLocated⟩ :=
      restHypothesis behindWithin leadAside
    obtain ⟨_, forward⟩ := rest.moves behindWithin
    exact ⟨max leadPosition restPosition, by omega, restAside.of_eq (by omega),
      .led leadLocated restLocated forward⟩

/-- If the first fault of a list is located, the conclusion rejects the list with it, and
accepts a list without one.

Proof: an expression that failed has put the fault aside or returns it. One that was
accepted is stuck where it stopped, and without open parentheses a closing one that stands
there is the fault as well. -/
theorem Locates.conclude {list : List Token} {answer : Except ParseError (List Tree)}
    {after : Reading list.toArray} {position : Nat}
    (located : Locates .expression (Reading.start list.toArray) answer after position)
    (aside : after.Noted position) (bound : position ≤ list.toArray.size)
    (afterWithin : after.pos ≤ list.toArray.size) :
    match (conclude answer after).result with
    | .ok _ => (Expectation.operand 0).fault 0 list = none
    | .error error => (Expectation.operand 0).fault 0 list = some error := by
  match answer with
  | .error error =>
    obtain ⟨_, ⟨last, before, rfl⟩, located⟩ := located
    have report := aside.report (Nat.le_trans before bound)
    rw [Nat.max_eq_left before] at report
    simp only [Grammar.conclude, report]
    exact located 0
  | .ok forest =>
    obtain ⟨stuck, same⟩ := located
    have start : (Expectation.operand 0).fault 0 list = after.fault (.operator 0) := same 0
    cases next : after.cursor.peek with
    | none =>
      simp only [Grammar.conclude, next]
      rw [start, Reading.fault, (Reading.unread_eq_nil_iff after).mpr next]
      rfl
    | some token =>
      have report := aside.report afterWithin
      simp only [Grammar.conclude, next, report]
      simp only [Reading.Stuck, next] at stuck
      rw [start]
      split at stuck
      · rename_i closes
        rw [Nat.max_eq_right stuck]
        exact Reading.fault_of_unexpected next (by rw [closes]; rfl)
      · rw [Nat.max_comm]
        exact stuck 0

/-- A parse rejects a list with its first fault, and accepts a list without one. -/
theorem ofTokens_fault (list : List Token) :
    match Tree.ofTokens list with
    | .ok _ => (Expectation.operand 0).fault 0 list = none
    | .error error => (Expectation.operand 0).fault 0 list = some error := by
  by_cases occupied : list = []
  · subst list
    rfl
  · obtain ⟨answer, after, run, concluded⟩ := ofTokens_concludes occupied
    obtain ⟨position, bound, aside, located⟩ := run.locates (Nat.zero_le _) Reading.noted_start
    obtain ⟨afterWithin, _⟩ := run.moves (Nat.zero_le _)
    rw [Nat.zero_max] at aside
    rw [concluded]
    exact located.conclude aside bound afterWithin

/-- The parse rejects a list with an error exactly if the pass finds that fault in it. -/
theorem rejected_iff_fault (list : List Token) (error : ParseError) :
    Tree.ofTokens list = .error error ↔ (Expectation.operand 0).fault 0 list = some error := by
  have faulty := ofTokens_fault list
  cases result : Tree.ofTokens list with
  | ok tree =>
    rw [result] at faulty
    simp [faulty]
  | error other =>
    rw [result] at faulty
    simp [faulty]

/-- The parse accepts a list exactly if the pass finds no fault in it. -/
theorem accepted_iff_no_fault (list : List Token) :
    (∃ tree, Tree.ofTokens list = .ok tree) ↔ (Expectation.operand 0).fault 0 list = none := by
  have faulty := ofTokens_fault list
  cases result : Tree.ofTokens list with
  | ok tree =>
    rw [result] at faulty
    simp [faulty]
  | error other =>
    rw [result] at faulty
    simp [faulty]

/-- The first `length` tokens begin some sentence, and no longer part of the list
from its start does. -/
def LongestViable (list : List Token) (length : Nat) : Prop :=
  length ≤ list.length ∧ Viable ((list.take length).map Token.kind) ∧
    ∀ longer ≤ list.length, Viable ((list.take longer).map Token.kind) → longer ≤ length

/-- A rejected list is reported with the token behind its longest viable part, or with its
end if all of it is viable.

Proof: the tokens in front of the fault are expected, so they begin a sentence. A longer
part has the token in it that is not expected. -/
theorem rejected_behind_viable (list : List Token) (error : ParseError)
    (rejected : Tree.ofTokens list = .error error) :
    ∃ length, LongestViable list length ∧
      (∀ inside : length < list.length, error = .unexpectedToken list[length] length) ∧
      (length = list.length → error = .unexpectedEndOfInput) := by
  obtain ⟨length, within, following, reached, stopped, ended⟩ :=
    Expectation.exists_stop_of_fault ((rejected_iff_fault list error).mp rejected)
  refine ⟨length, ⟨within, (viable_iff_expected _).mpr ⟨following, reached⟩, ?_⟩, ?_, ended⟩
  · intro longer longerWithin viable
    apply Nat.le_of_not_lt
    intro beyond
    have inside : length < list.length := Nat.lt_of_lt_of_le beyond longerWithin
    have bound : length < (list.take longer).length := by
      rw [List.length_take]
      omega
    have split : list.take longer =
        list.take length ++ list[length] :: (list.take longer).drop (length + 1) :=
      calc list.take longer
          = (list.take longer).take length ++ (list.take longer).drop length :=
            (List.take_append_drop length _).symm
        _ = list.take length ++ list[length] :: (list.take longer).drop (length + 1) := by
            rw [List.take_take, Nat.min_eq_left (Nat.le_of_lt beyond),
              List.drop_eq_getElem_cons bound, List.getElem_take]
    rw [split, List.map_append, List.map_cons, List.append_cons] at viable
    obtain ⟨last, expected⟩ := (viable_iff_expected _).mp viable.of_append
    rw [Expectation.after_append, reached, Option.bind_some, Expectation.after,
      (stopped inside).1] at expected
    cases expected
  · intro inside
    rw [(stopped inside).2, Nat.zero_add]

/-- An error deep inside is reported although every level around it fails again at
an earlier token. -/
theorem inner_fault_reported :
    Tree.ofTokens [.number "1", .operator .add, .openParen, .number "2", .operator .subtract,
        .closeParen] = .error (.unexpectedToken .closeParen 5) ∧
      LongestViable [.number "1", .operator .add, .openParen, .number "2", .operator .subtract,
        .closeParen] 5 := by
  have rejected : Tree.ofTokens [.number "1", .operator .add, .openParen, .number "2",
      .operator .subtract, .closeParen] = .error (.unexpectedToken .closeParen 5) :=
    (rejected_iff_fault _ _).mpr (by decide)
  obtain ⟨length, longest, stopped, ended⟩ := rejected_behind_viable _ _ rejected
  refine ⟨rejected, ?_⟩
  rcases Nat.lt_or_eq_of_le longest.1 with inside | all
  · have same := stopped inside
    rw [ParseError.unexpectedToken.injEq] at same
    exact same.2 ▸ longest
  · cases ended all

end Reckoner.Grammar
