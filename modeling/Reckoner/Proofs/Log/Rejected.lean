import Reckoner.Proofs.Grammar.Rejection
import Reckoner.Proofs.Log.Accepted

/-!
# Logs of rejected token lists

A list that is rejected has a first fault: a token that is not expected, or its end.
Up to there the journal tells the same of every token as it does for an accepted
list, because nothing has gone wrong yet. What follows is the way back. Every level of
parentheses gives up its second alternative and at most one step of the chain around
it, and nothing is read anew: an operator is what the cursor is sent back to, and
where an operator stands every rule ends.

So the way back tells at most two failures for each open parenthesis and three more,
and apart from an operand that begins right at the fault nothing begins there.
-/

namespace Reckoner.Grammar

variable {tokens : Array Token}

/-- An expression begins in front of a token, never at the end of a list. -/
def Event.beginsWithin (size : Nat) : Event → Bool
  | .expressionBegun position _ => position < size
  | _ => true

/-- Whether an event tells that something was given up. -/
def Event.isFailure : Event → Bool
  | .alternativeFailed _ _ _ | .chainEnded _ _ => true
  | .expressionBegun _ _ | .operandBegun _ | .sentBack _ _ => false

/-- The events of neighbouring tokens that are expected, in a list of `size` tokens. -/
def expectedEvents (size position : Nat) (list : List Token) : List Event :=
  (listEvents position list).filter (Event.beginsWithin size)

/-- The events of expected tokens are told one token after the other. -/
theorem expectedEvents_cons (size position : Nat) (token : Token) (list : List Token) :
    expectedEvents size position (token :: list) =
      (tokenEvents token position).filter (Event.beginsWithin size) ++
        expectedEvents size (position + 1) list := by
  rw [expectedEvents, listEvents_cons, List.filter_append]
  rfl

/-- An expected token tells its own events, except that no expression begins at the end of
the list. -/
theorem expectedEvents_singleton (size position : Nat) (token : Token) :
    expectedEvents size position [token] =
      (tokenEvents token position).filter (Event.beginsWithin size) :=
  expectedEvents_cons size position token [] |>.trans (List.append_nil _)

/-- The events of expected tokens in two parts are those of the first part and then those
of the second, whose positions go on. -/
theorem expectedEvents_append (size position : Nat) (list later : List Token) :
    expectedEvents size position (list ++ later) =
      expectedEvents size position list ++ expectedEvents size (position + list.length) later := by
  rw [expectedEvents, listEvents_append, List.filter_append]
  rfl

/-- Where an operator is due, the last token was no opening parenthesis, and all
expressions that the tokens announce have begun.

Proof: induction on the list. No opening parenthesis is the last token, since an operand is
due behind it. -/
theorem expectedEvents_eq_listEvents {size position opened : Nat} {list : List Token}
    {expectation : Expectation}
    (passed : expectation.after (list.map Token.kind) = some (.operator opened))
    (fits : position + list.length ≤ size) :
    expectedEvents size position list = listEvents position list := by
  induction list generalizing expectation position with
  | nil => rfl
  | cons token list inductionHypothesis =>
    rw [List.map_cons, Expectation.after] at passed
    obtain ⟨following, expected, rest⟩ := Option.bind_eq_some_iff.mp passed
    rw [List.length_cons] at fits
    have behind : position + 1 + list.length ≤ size := by omega
    have later := inductionHypothesis rest behind
    rw [expectedEvents_cons, listEvents_cons, later]
    congr 1
    cases kind : token.kind with
    | number | closeParen | operator sign => simp [tokenEvents, Event.beginsWithin, kind]
    | openParen =>
      have more : list ≠ [] := by
        rintro rfl
        cases expectation with
        | operand count =>
          rw [kind, Expectation.next] at expected
          cases expected
          cases rest
        | operator count => simp [kind, Expectation.next] at expected
      have inside : position + 1 < size := by
        have := List.length_pos_iff.mpr more
        omega
      simp [tokenEvents, Event.beginsWithin, kind, inside]

/-- Events of the way back from a fault at a position: an operand may begin there, and
all others are failures, of which there is a bounded number. -/
def Unwinds (position bound : Nat) (events : List Event) : Prop :=
  ∃ entry failures, events = entry ++ failures ∧
    (entry = [] ∨ entry = [.operandBegun position]) ∧
    (∀ event ∈ failures, event.isFailure = true) ∧ failures.length ≤ bound

/-- Failures in the end make the way back longer. -/
theorem Unwinds.append {position bound larger : Nat} {events more : List Event}
    (unwinds : Unwinds position bound events) (failing : ∀ event ∈ more, event.isFailure = true)
    (enough : bound + more.length ≤ larger) : Unwinds position larger (events ++ more) := by
  obtain ⟨entry, failures, rfl, begins, given, few⟩ := unwinds
  refine ⟨entry, failures ++ more, List.append_assoc entry failures more, begins, ?_, ?_⟩
  · intro event member
    exact (List.mem_append.mp member).elim (given event) (failing event)
  · rw [List.length_append]
    omega

/-- A failure alone is a way back. -/
theorem unwinds_singleton {position bound : Nat} {event : Event}
    (failing : event.isFailure = true) (enough : 0 < bound) : Unwinds position bound [event] :=
  ⟨[], [event], rfl, .inl rfl, List.forall_mem_singleton.mpr failing, enough⟩

/-- What is due where a rule begins, inside `opened` parentheses. -/
def Rule.due (opened : Nat) : Rule → Expectation
  | .operand | .expression => .operand opened
  | .chain => .operator opened

/-- How many failures a rule tells beyond two for each parenthesis. -/
def Rule.slack : Rule → Nat
  | .operand => 2
  | .chain | .expression => 3

namespace Reading

/-- Skipping a token shows nothing. -/
@[simp] theorem visible_skip (reading : Reading tokens) :
    reading.skip.visible = reading.visible := by
  unfold skip
  split <;> rfl

/-- The end of an operand tells that the second alternative was given up. -/
theorem visible_noOperand (start : Nat) (error : ParseError) (reading : Reading tokens) :
    (reading.noOperand start error).visible =
      reading.visible ++ [.alternativeFailed .parenthesized reading.pos error] := by
  simp [noOperand, abandon, Event.visible?]

end Reading

/-! ## The way to the fault -/

/-- From `reading`, a rule has got to `middle`, where the rule `next` goes on, `opened`
parentheses deeper. All tokens of `front` were expected and have been told. -/
structure Reaches (rule next : Rule) (reading middle : Reading tokens) (front : List Token)
    (opened : Nat) : Prop where
  split : reading.unread = front ++ middle.unread
  place : middle.pos = reading.pos + front.length
  passed : ∀ around, (rule.due around).after (front.map Token.kind) =
    some (next.due (around + opened))
  told : middle.visible ++ next.opening middle.pos = reading.visible ++
    (rule.opening reading.pos ++ expectedEvents tokens.size reading.pos front)

namespace Reaches

variable {rule next final : Rule} {reading middle stop : Reading tokens} {token : Token}

/-- A rule has got to its own beginning without any token. -/
theorem refl (rule : Rule) (reading : Reading tokens) :
    Reaches rule rule reading reading [] 0 where
  split := rfl
  place := rfl
  passed _ := rfl
  told := by simp [expectedEvents, listEvents]

/-- What is reached from the middle of a rule is reached from its beginning. The tokens
follow each other, and the open parentheses add up. -/
theorem trans {front later : List Token} {opened more : Nat}
    (first : Reaches rule next reading middle front opened)
    (second : Reaches next final middle stop later more) :
    Reaches rule final reading stop (front ++ later) (opened + more) where
  split := by rw [first.split, second.split, List.append_assoc]
  place := by rw [second.place, first.place, List.length_append, Nat.add_assoc]
  passed around := by
    rw [List.map_append, Expectation.after_append, first.passed, Option.bind_some, second.passed,
      Nat.add_assoc]
  told := by
    rw [second.told, ← List.append_assoc middle.visible, first.told, expectedEvents_append,
      ← first.place]
    simp only [List.append_assoc]

/-- An expression begins with an operand. -/
theorem lead (reading : Reading tokens) (enclosing : List Nat) :
    Reaches .expression .operand reading (reading.log (.expressionBegun reading.pos enclosing))
      [] 0 where
  split := rfl
  place := rfl
  passed _ := rfl
  told := by simp [Rule.opening, Event.visible?, expectedEvents, listEvents]

/-- Behind an opening parenthesis an expression is read, if there is anything. -/
theorem inside (found : reading.cursor.peek = some token) (kind : token.kind = .openParen)
    (more : reading.pos + 1 < tokens.size) :
    Reaches .operand .expression reading reading.noNumber.past [token] 1 where
  split := Reading.unread_of_peek found
  place := rfl
  passed around := by simp [Rule.due, Expectation.after, Expectation.next, kind]
  told := by
    rw [Reading.visible_past, Reading.visible_noNumber, blame_of_token found,
      expectedEvents_singleton]
    simp [Rule.opening, tokenEvents, Event.beginsWithin, List.filter_cons, kind, more]

/-- Behind an opening parenthesis at the end of the list an operand is missing. -/
theorem insideAtEnd (found : reading.cursor.peek = some token) (kind : token.kind = .openParen)
    (last : tokens.size = reading.pos + 1) :
    Reaches .operand .operand reading reading.noNumber.past [token] 1 where
  split := Reading.unread_of_peek found
  place := rfl
  passed around := by simp [Rule.due, Expectation.after, Expectation.next, kind]
  told := by
    rw [Reading.visible_past, Reading.visible_noNumber, blame_of_token found,
      expectedEvents_singleton]
    simp [Rule.opening, tokenEvents, Event.beginsWithin, List.filter_cons, kind, last]

/-- Behind an operator an operand is due. -/
theorem operand {sign : Sign} (found : reading.cursor.peek = some token)
    (isSign : token.sign? = some sign) :
    Reaches .chain .operand reading reading.past [token] 0 where
  split := Reading.unread_of_peek found
  place := rfl
  passed around := by
    have kind : token.kind = .operator sign := congrArg Prod.fst (Token.essence_of_sign isSign)
    simp [Rule.due, Expectation.after, Expectation.next, kind]
  told := by
    have kind : token.kind = .operator sign := congrArg Prod.fst (Token.essence_of_sign isSign)
    simp [Rule.opening, expectedEvents_singleton, tokenEvents, kind]

/-- An operand that is accepted was expected throughout, and an operator is due
behind it. -/
theorem behind {around : List Nat} {forest : List Tree}
    (run : Run around .operand reading (.ok forest) middle)
    (within : reading.pos ≤ tokens.size) :
    ∃ front, Reaches .operand .chain reading middle front 0 := by
  obtain ⟨front, split, place, told⟩ := run.tells forest rfl (absurd rfl)
  obtain ⟨shape, spelled⟩ := run.consumes forest rfl
  obtain ⟨tree, rfl, isOperand⟩ := Rule.admits_operand.mp shape
  have passed (opened : Nat) : (Expectation.operand opened).after (front.map Token.kind) =
      some (.operator opened) := by
    rw [split, List.map_append] at spelled
    have kinds := congrArg (List.map Prod.fst) (List.append_cancel_right spelled)
    simp only [List.map_map, Tree.tokensAll, List.append_nil] at kinds
    change front.map Token.kind = tree.tokens.map Token.kind at kinds
    rw [kinds]
    exact Expectation.passes_of_phrase (phrase_of_operand tree isOperand) opened
  refine ⟨front, split, place, passed, ?_⟩
  have fits : reading.pos + front.length ≤ tokens.size := place ▸ (run.moves within).1
  rw [told, expectedEvents_eq_listEvents (passed 0) fits]
  simp [Rule.opening, Rule.closing]

end Reaches

/-! ## The way back -/

/-- A run that reaches the fault, inside `around` parentheses, and then unwinds. -/
def Halts (around : Nat) (rule : Rule) (reading after : Reading tokens) : Prop :=
  ∃ (next : Rule) (stop : Reading tokens) (front : List Token) (opened : Nat)
    (events : List Event),
    Reaches rule next reading stop front opened ∧ next ≠ .expression ∧
    stop.fault (next.due (around + opened)) = some (blame tokens stop.pos) ∧
    after.visible = stop.visible ++ events ∧
    Unwinds stop.pos (2 * opened + rule.slack) events

/-- A run that fails, or a chain that ends where nothing is closed: not at the end of a
list without open parentheses, and not at a parenthesis that closes one of them. -/
def Stalled (around : Nat) (rule : Rule) (answer : Except ParseError (List Tree))
    (after : Reading tokens) : Prop :=
  match answer with
  | .error _ => True
  | .ok _ => rule ≠ .operand ∧
    match after.cursor.peek with
    | none => around ≠ 0
    | some token => token.kind = .closeParen → around = 0

/-- If a part of a run reaches the fault, the run does. The failures told behind the
part must be paid for by its rule or by parentheses in front of the part. -/
theorem Halts.of_part {around opened : Nat} {rule part : Rule}
    {reading middle behind after : Reading tokens} {front : List Token} {failures : List Event}
    (reaches : Reaches rule part reading middle front opened)
    (halts : Halts (around + opened) part middle behind)
    (told : after.visible = behind.visible ++ failures)
    (failing : ∀ event ∈ failures, event.isFailure = true)
    (enough : part.slack + failures.length ≤ 2 * opened + rule.slack) :
    Halts around rule reading after := by
  obtain ⟨next, stop, later, more, events, arrives, quiet, faulty, unwound, unwinds⟩ := halts
  refine ⟨next, stop, front ++ later, opened + more, events ++ failures, reaches.trans arrives,
    quiet, ?_, ?_, unwinds.append failing (by omega)⟩
  · rw [← Nat.add_assoc]
    exact faulty
  · rw [told, unwound, List.append_assoc]

/-- A run that fails or stalls reaches the fault and unwinds.

Proof: induction on the run. The run of a part stalls in turn, with one parenthesis
more where the part stands inside parentheses. Failures are told once behind each
part: two for a parenthesis, if the step in front of it is counted. -/
theorem Run.halts {enclosing : List Nat} {rule : Rule} {reading after : Reading tokens}
    {answer : Except ParseError (List Tree)} (run : Run enclosing rule reading answer after)
    (within : reading.pos ≤ tokens.size) {around : Nat}
    (stalled : Stalled around rule answer after) : Halts around rule reading after := by
  induction run generalizing around with
  | number _ _ | closed _ _ _ _ _ _ => exact absurd rfl stalled.1
  | @stray _ reading token next notNumber notOpen =>
    refine ⟨.operand, reading, [], 0, _, .refl _ _, by decide, ?_, ?_,
      [.operandBegun reading.pos],
      [.alternativeFailed .number (reading.pos + 1) (blame tokens reading.pos),
        .alternativeFailed .parenthesized (reading.pos + 1) (blame tokens reading.pos)],
      rfl, .inr rfl, ?_, Nat.le_refl 2⟩
    · apply Reading.fault_of_unexpected next
      cases kind : token.kind with
      | number => exact absurd kind notNumber
      | openParen => exact absurd kind notOpen
      | closeParen | operator sign => rfl
    · rw [Reading.visible_noOperand, Reading.visible_past, Reading.visible_noNumber,
        List.append_assoc]
      rfl
    · simp [Event.isFailure]
  | @openAtEnd _ reading token next kind last =>
    have ended : reading.noNumber.past.cursor.peek = none :=
      Array.getElem?_eq_none (Nat.le_of_eq last)
    refine ⟨.operand, _, [token], 1, _, .insideAtEnd next kind last, by decide, ?_,
      Reading.visible_noOperand _ _ _, unwinds_singleton rfl (by decide)⟩
    exact Reading.fault_of_end ended (by simp [Rule.due])
  | @insideRejected _ reading behind token error next kind inside inductionHypothesis =>
    have more := inside.begins_inside (by decide)
    exact (inductionHypothesis (Nat.le_of_lt more) trivial).of_part (.inside next kind more)
      (Reading.visible_noOperand _ _ _) (List.forall_mem_singleton.mpr rfl) (Nat.le_refl 4)
  | @unclosed _ reading behind token forest next kind inside missing inductionHypothesis =>
    have more := inside.begins_inside (by decide)
    have inner : Stalled (around + 1) .expression (.ok forest) behind := by
      refine ⟨by decide, ?_⟩
      cases found : behind.cursor.peek with
      | none => exact Nat.succ_ne_zero around
      | some other => exact fun closes => absurd closes (missing other found)
    have told := Reading.visible_noOperand reading.pos (blame tokens behind.pos) behind.skip
    rw [Reading.visible_skip] at told
    exact (inductionHypothesis (Nat.le_of_lt more) inner).of_part (.inside next kind more) told
      (List.forall_mem_singleton.mpr rfl) (Nat.le_refl 4)
  | @exhausted _ reading ended =>
    have opened : around ≠ 0 := by simpa [Stalled, ended] using stalled
    refine ⟨.chain, reading, [], 0, [], .refl _ _, by decide, ?_, (List.append_nil _).symm,
      [], [], rfl, .inl rfl, by simp, Nat.zero_le _⟩
    exact Reading.fault_of_end ended (by simpa [Rule.due] using opened)
  | @noOperator _ reading token next notSign =>
    have here : (reading.past.endAt reading.pos (blame tokens reading.pos)).cursor.peek =
      some token := next
    refine ⟨.chain, reading, [], 0, _, .refl _ _, by decide, ?_, Reading.visible_endAt _ _ _,
      unwinds_singleton rfl (by decide)⟩
    apply Reading.fault_of_unexpected next
    simp only [Stalled, here] at stalled
    cases kind : token.kind with
    | number | openParen => rfl
    | closeParen =>
      obtain rfl : around = 0 := stalled.2 kind
      rfl
    | operator sign => simp [Token.sign?, kind] at notSign
  | @operatorAtEnd _ reading token sign next isSign last =>
    have ended : reading.past.cursor.peek = none := Array.getElem?_eq_none (Nat.le_of_eq last)
    refine ⟨.operand, _, [token], 0, _, .operand next isSign, by decide, ?_,
      Reading.visible_endAt _ _ _, unwinds_singleton rfl (by decide)⟩
    exact Reading.fault_of_end ended (by simp [Rule.due])
  | linkRejected next isSign link inductionHypothesis =>
    have more := link.begins_inside (by decide)
    exact (inductionHypothesis (Nat.le_of_lt more) trivial).of_part (.operand next isSign)
      (Reading.visible_endAt _ _ _) (List.forall_mem_singleton.mpr rfl) (Nat.le_refl 3)
  | linked next isSign link rest _ restHypothesis =>
    have more := link.begins_inside (by decide)
    obtain ⟨front, taken⟩ := Reaches.behind link (Nat.le_of_lt more)
    obtain ⟨behindWithin, _⟩ := link.moves (Nat.le_of_lt more)
    exact (restHypothesis behindWithin stalled).of_part ((Reaches.operand next isSign).trans taken)
      (List.append_nil _).symm (by simp) (by decide)
  | leadRejected lead inductionHypothesis =>
    exact (inductionHypothesis within trivial).of_part (.lead _ _) (List.append_nil _).symm
      (by simp) (by decide)
  | led lead rest _ restHypothesis =>
    obtain ⟨front, taken⟩ := Reaches.behind lead within
    obtain ⟨behindWithin, _⟩ := lead.moves within
    exact (restHypothesis behindWithin ⟨by decide, stalled.2⟩).of_part
      ((Reaches.lead _ _).trans taken) (List.append_nil _).symm (by simp) (by decide)

/-! ## Rejected lists -/

/-- How many parentheses are open around what is due. -/
def Expectation.opened : Expectation → Nat
  | .operand opened | .operator opened => opened

/-- An expected token changes the number of open parentheses as it opens or closes one. -/
theorem Expectation.opened_next {expectation following : Expectation} {kind : Token.Kind}
    (expected : expectation.next kind = some following) :
    (following.opened : Int) = expectation.opened + SignedSum.opens kind := by
  match expectation, kind with
  | .operand opened, .number | .operand opened, .openParen | .operator opened, .operator sign
  | .operator (opened + 1), .closeParen =>
    cases expected
    simp [Expectation.opened, SignedSum.opens]
  | .operand opened, .closeParen | .operand opened, .operator sign | .operator opened, .number
  | .operator opened, .openParen | .operator 0, .closeParen => cases expected

/-- Tokens that are expected change the number of open parentheses by what they open and
close in all. -/
theorem Expectation.opened_after {expectation following : Expectation} {list : List Token}
    (passed : expectation.after (list.map Token.kind) = some following) :
    (following.opened : Int) =
      expectation.opened + (list.map fun token => SignedSum.opens token.kind).sum := by
  induction list generalizing expectation with
  | nil =>
    obtain rfl := Option.some.inj passed
    simp
  | cons token list inductionHypothesis =>
    rw [List.map_cons, Expectation.after] at passed
    obtain ⟨between, expected, rest⟩ := Option.bind_eq_some_iff.mp passed
    rw [inductionHypothesis rest, Expectation.opened_next expected, List.map_cons, List.sum_cons,
      Int.add_assoc]

/-- The run of a list that is rejected fails, or stops where nothing is closed. -/
theorem stalled_of_rejected {answer : Except ParseError (List Tree)} {after : Reading tokens}
    {error : ParseError} (rejected : (conclude answer after).result = .error error) :
    Stalled 0 .expression answer after := by
  match answer with
  | .error cause => exact trivial
  | .ok forest =>
    refine ⟨by decide, ?_⟩
    cases next : after.cursor.peek with
    | none => simp [conclude, next] at rejected
    | some token => exact fun _ => rfl

/-- The journal of a rejected list tells the tokens in front of the fault as expected, and
then only unwinds.

Proof: the run of the list halts at a fault, which is the first one of the list because all
tokens in front of it were expected. These are the tokens that have been told, and the
parentheses that they leave open are those the run has to come back from. -/
theorem journal_of_rejected {list : List Token} {error : ParseError} (occupied : list ≠ [])
    (rejected : Tree.ofTokens list = .error error) :
    error.reach list.length ≤ list.length ∧
    ∃ (opened : Nat) (events : List Event),
      SignedSum.depth list (error.reach list.length) = opened ∧
      (parse list.toArray).journal.toList.filterMap Event.visible? = .expressionBegun 0 [] ::
        (expectedEvents list.length 0 (list.take (error.reach list.length)) ++ events) ∧
      Unwinds (error.reach list.length) (2 * opened + 3) events := by
  have inside : 0 < list.toArray.size := List.length_pos_iff.mpr occupied
  obtain ⟨answer, after, run, concluded⟩ := parse_concludes Rewind.checked_faithful inside
  have result : (conclude answer after).result = .error error := concluded ▸ rejected
  obtain ⟨next, stop, front, opened, events, arrives, quiet, faulty, unwound, unwinds⟩ :=
    run.halts (Nat.zero_le _) (stalled_of_rejected result)
  have split : list = front ++ stop.unread := arrives.split
  have place : stop.pos = front.length := arrives.place.trans (Nat.zero_add _)
  have fits : front.length ≤ list.length := by
    rw [split, List.length_append]
    exact Nat.le_add_right _ _
  have passed : (Expectation.operand 0).after (front.map Token.kind) =
      some (next.due (0 + opened)) := arrives.passed 0
  have blamed : error = blame list.toArray stop.pos := by
    have found := (rejected_iff_fault list error).mp rejected
    rw [split, Expectation.fault_append passed, Nat.zero_add front.length, ← place] at found
    exact Option.some.inj (found.symm.trans faulty)
  have reach : error.reach list.length = front.length := by
    rw [blamed, place]
    exact reach_blame fits
  have taken : list.take front.length = front := by
    conv_lhs => rw [split, List.take_left']
  have silent : next.opening stop.pos = [] := by
    cases next with
    | operand | chain => rfl
    | expression => exact absurd rfl quiet
  rw [reach, taken]
  refine ⟨fits, opened, events, ?_, ?_, place ▸ unwinds⟩
  · have count := Expectation.opened_after passed
    rw [SignedSum.depth, taken]
    cases next <;> simpa [Rule.due, Expectation.opened] using count.symm
  · have told := arrives.told
    rw [silent, List.append_nil] at told
    have journal : (parse list.toArray).journal = after.journal := by
      rw [parse, concluded, journal_conclude]
    rw [journal]
    change after.visible = _
    rw [unwound, told]
    simp [Rule.opening, Reading.visible, Reading.start, Reading.pos, Cursor.start]

/-- Expected tokens tell the beginnings of operands where an operand can begin. -/
theorem operandStarts_expectedEvents (size position : Nat) (list : List Token) :
    (expectedEvents size position list).filterMap Event.operandStart? =
      ((list.zipIdx position).filter fun entry => beginsOperand entry.1.kind).map Prod.snd := by
  rw [← operandStarts_listEvents, expectedEvents, List.filterMap_filter]
  congr 1
  funext event
  cases event <;> simp [Event.operandStart?, Event.beginsWithin]

/-- On the way back an operand begins at the fault or not at all. -/
theorem operandStarts_of_unwinds {position bound : Nat} {events : List Event}
    (unwinds : Unwinds position bound events) :
    events.filterMap Event.operandStart? = [] ∨
      events.filterMap Event.operandStart? = [position] := by
  obtain ⟨entry, failures, rfl, begins, failing, _⟩ := unwinds
  have quiet : failures.filterMap Event.operandStart? = [] := by
    refine List.filterMap_eq_nil_iff.mpr fun event member => ?_
    have failed := failing event member
    cases event <;> simp_all [Event.isFailure, Event.operandStart?]
  rw [List.filterMap_append, quiet, List.append_nil]
  rcases begins with rfl | rfl
  · exact .inl rfl
  · exact .inr rfl

/-- In the journal of a rejected list no operand begins twice at one position, and none in
front of another that began before it. In front of the fault they begin one token after the
other, and on the way back only at the fault, if at all. -/
theorem operandStarts_of_rejected {list : List Token} {error : ParseError} (occupied : list ≠ [])
    (rejected : Tree.ofTokens list = .error error) :
    ((parse list.toArray).journal.toList.filterMap Event.operandStart?).Pairwise (· < ·) := by
  obtain ⟨within, opened, events, _, told, unwinds⟩ := journal_of_rejected occupied rejected
  have positions : ∀ position ∈ ((list.take (error.reach list.length)).zipIdx.filter fun entry =>
      beginsOperand entry.1.kind).map Prod.snd, position < error.reach list.length := by
    intro position member
    obtain ⟨⟨token, _⟩, kept, rfl⟩ := List.mem_map.mp member
    have inside := List.snd_lt_of_mem_zipIdx (List.mem_filter.mp kept).1
    rw [List.length_take, Nat.min_eq_left within] at inside
    exact inside
  have increasing := operandStarts_increasing (list.take (error.reach list.length))
  rw [filterMap_visible Event.operandStart?_seen, told, List.filterMap_cons_none rfl,
    List.filterMap_append, operandStarts_expectedEvents]
  rcases operandStarts_of_unwinds unwinds with quiet | one
  · rw [quiet, List.append_nil]
    exact increasing
  · rw [one]
    refine List.pairwise_append.mpr ⟨increasing, List.pairwise_singleton _ _, ?_⟩
    intro position member other last
    obtain rfl := List.mem_singleton.mp last
    exact positions position member

end Reckoner.Grammar

namespace Reckoner

open Grammar (Event tokenEvents listEvents expectedEvents beginsOperand)

/-- The records of a token at a position in the log of a list of `size` tokens, if the
token is expected there. -/
def Log.ofExpectedToken (size : Nat) (token : Token) (position : Nat) : List Log.Record :=
  let place := Decimal.writeNat position
  let next := Decimal.writeNat (position + 1)
  let refused := "unexpected token \"" ++ token.value ++ "\" at " ++ place
  match token.kind with
  | .number => [⟨.trace, .parse, "E' at " ++ place⟩]
  | .openParen => [⟨.trace, .parse, "E' at " ++ place⟩,
      ⟨.debug, .parse, "E' alternative 1 failed at " ++ next ++ ": " ++ refused⟩] ++
      if position + 1 < size then [⟨.trace, .parse, "E at " ++ next⟩] else []
  | .closeParen => [⟨.debug, .parse, "E ends at " ++ place ++ ": " ++ refused⟩]
  | .operator _ => []

namespace Log

/-- The records of the events of a token that is expected. -/
theorem ofExpectedToken_eq (size : Nat) (token : Token) (position : Nat) :
    ((tokenEvents token position).filter (Event.beginsWithin size)).filterMap ofEvent? =
      ofExpectedToken size token position := by
  have begun : ofEvent? (.operandBegun position) = some _ := rfl
  unfold ofExpectedToken tokenEvents
  cases token.kind with
  | number => rfl
  | operator sign => rfl
  | closeParen => rfl
  | openParen =>
    change List.filterMap ofEvent? (.operandBegun position :: .alternativeFailed .number
      (position + 1) (.unexpectedToken token position) ::
        List.filter (Event.beginsWithin size) [.expressionBegun (position + 1) []]) = _
    rw [List.filterMap_cons_some begun, List.filterMap_cons_some (ofEvent?_notNumber _ _)]
    by_cases inside : position + 1 < size
    · have begins : Event.beginsWithin size (.expressionBegun (position + 1) []) = true :=
        decide_eq_true inside
      simp only [List.filter_cons_of_pos begins, if_pos inside]
      rfl
    · have ends : ¬ Event.beginsWithin size (.expressionBegun (position + 1) []) = true := by
        simpa [Event.beginsWithin] using inside
      simp only [List.filter_cons_of_neg ends, if_neg inside]
      rfl

/-- The records of tokens that are expected are made token by token. -/
theorem filterMap_expectedEvents (size : Nat) (list : List Token) :
    (expectedEvents size 0 list).filterMap ofEvent? =
      list.zipIdx.flatMap fun entry => ofExpectedToken size entry.1 entry.2 := by
  rw [expectedEvents, listEvents, List.filter_flatMap, List.filterMap_flatMap]
  simp only [ofExpectedToken_eq]

/-- The records of the way back: one for an operand that begins at the fault, and then
failures, at most as many as there are events of them. -/
theorem records_of_unwinds {position bound : Nat} {events : List Event}
    (unwinds : Grammar.Unwinds position bound events) :
    ∃ entry failures : List Record, events.filterMap ofEvent? = entry ++ failures ∧
      (entry = [] ∨ entry = [⟨.trace, .parse, "E' at " ++ Decimal.writeNat position⟩]) ∧
      (∀ record ∈ failures, record.level = .debug ∧ record.stage = .parse) ∧
      failures.length ≤ bound := by
  obtain ⟨entry, failures, rfl, begins, failing, few⟩ := unwinds
  refine ⟨entry.filterMap ofEvent?, failures.filterMap ofEvent?, List.filterMap_append, ?_, ?_, ?_⟩
  · rcases begins with rfl | rfl
    · exact .inl rfl
    · exact .inr rfl
  · intro record member
    obtain ⟨event, within, recorded⟩ := List.mem_filterMap.mp member
    have failed := failing event within
    cases event with
    | alternativeFailed alternative position error | chainEnded position error =>
      cases recorded
      exact ⟨rfl, rfl⟩
    | expressionBegun _ _ | operandBegun _ | sentBack _ _ => cases failed
  · exact Nat.le_trans (List.length_filterMap_le _ _) few

/-- The log of a rejected token list tells the tokens in front of the fault one by one,
and then only unwinds. The fault is the reported position, or the end of the list. If
`opened` parentheses are open in front of it, the way back leaves a record of an operand
that begins at the fault, or none, and at most `2 * opened + 3` records of failures. No
operand begins twice. -/
theorem ofTokens_unwinds_at_fault (list : List Token) (error : ParseError) (occupied : list ≠ [])
    (rejected : Tree.ofTokens list = .error error) :
    error.reach list.length ≤ list.length ∧
    (∃ (opened : Nat) (entry failures : List Record),
      SignedSum.depth list (error.reach list.length) = opened ∧
      ofTokens list = ⟨.trace, .parse, "E at 0"⟩ ::
        ((list.take (error.reach list.length)).zipIdx.flatMap fun placed =>
          ofExpectedToken list.length placed.1 placed.2) ++ (entry ++ failures) ∧
      (entry = [] ∨ entry =
        [⟨.trace, .parse, "E' at " ++ Decimal.writeNat (error.reach list.length)⟩]) ∧
      (∀ record ∈ failures, record.level = .debug ∧ record.stage = .parse) ∧
      failures.length ≤ 2 * opened + 3) ∧
    ((Grammar.parse list.toArray).journal.toList.filterMap
      Event.operandStart?).Pairwise (· < ·) := by
  obtain ⟨within, opened, events, deep, told, unwinds⟩ :=
    Grammar.journal_of_rejected occupied rejected
  obtain ⟨entry, failures, recorded, begins, failing, few⟩ := records_of_unwinds unwinds
  have begun : ofEvent? (.expressionBegun 0 []) = some ⟨.trace, .parse, "E at 0"⟩ := rfl
  refine ⟨within, ⟨opened, entry, failures, deep, ?_, begins, failing, few⟩,
    Grammar.operandStarts_of_rejected occupied rejected⟩
  rw [ofTokens, Grammar.filterMap_visible ofEvent?_seen, told, List.filterMap_cons_some begun,
    List.filterMap_append, recorded, filterMap_expectedEvents]
  rfl

/-- A closing parenthesis behind an operator, two levels deep: both levels fail at
operators that were read long before. -/
theorem two_levels_unwound :
    Tree.ofTokens [.openParen, .number "1", .operator .add, .openParen, .number "2",
      .operator .subtract, .closeParen, .closeParen] =
        .error (.unexpectedToken .closeParen 6) ∧
    ∃ (opened : Nat) (entry failures : List Record),
      SignedSum.depth [.openParen, .number "1", .operator .add, .openParen, .number "2",
        .operator .subtract, .closeParen, .closeParen] 6 = opened ∧
      ofTokens [.openParen, .number "1", .operator .add, .openParen, .number "2",
        .operator .subtract, .closeParen, .closeParen] = ⟨.trace, .parse, "E at 0"⟩ ::
          ([Token.openParen, .number "1", .operator .add, .openParen, .number "2",
            .operator .subtract].zipIdx.flatMap fun placed =>
              ofExpectedToken 8 placed.1 placed.2) ++ (entry ++ failures) ∧
      (entry = [] ∨ entry = [⟨.trace, .parse, "E' at " ++ Decimal.writeNat 6⟩]) ∧
      (∀ record ∈ failures, record.level = .debug ∧ record.stage = .parse) ∧
      failures.length ≤ 2 * opened + 3 := by
  have rejected : Tree.ofTokens [.openParen, .number "1", .operator .add, .openParen,
      .number "2", .operator .subtract, .closeParen, .closeParen] =
        .error (.unexpectedToken .closeParen 6) :=
    (Grammar.rejected_iff_fault _ _).mpr (by decide)
  exact ⟨rejected, (ofTokens_unwinds_at_fault _ _ (by decide) rejected).2.1⟩

end Log

end Reckoner
