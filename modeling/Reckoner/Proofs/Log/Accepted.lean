import Reckoner.Log
import Reckoner.Proofs.Calculation.Value
import Reckoner.Proofs.Token.Offsets

/-!
# Logs of accepted texts

The rules try alternatives and give up steps, and the journal tells of each attempt.
For a token list that is accepted it comes to little: an operand is begun once where
its first token stands, only a parenthesis is first tried as a number, and only in
front of a closing parenthesis does a chain end before the list does. So the journal
can be written down token by token, without the rules, and with it the whole log of
a text that has a value.
-/

namespace Reckoner.Grammar

variable {tokens : Array Token}

/-- What a log can show of an event: not the expressions around one that begins, and
not that the cursor is sent back. -/
def Event.visible? : Event → Option Event
  | .expressionBegun position _ => some (.expressionBegun position [])
  | .sentBack _ _ => none
  | event => some event

/-- The events that a token at a position leaves in the journal of an accepted list. -/
def tokenEvents (token : Token) (position : Nat) : List Event :=
  match token.kind with
  | .number => [.operandBegun position]
  | .openParen => [.operandBegun position,
      .alternativeFailed .number (position + 1) (.unexpectedToken token position),
      .expressionBegun (position + 1) []]
  | .closeParen => [.chainEnded position (.unexpectedToken token position)]
  | .operator _ => []

/-- The events of neighbouring tokens, the first of which stands at `position`. -/
def listEvents (position : Nat) (list : List Token) : List Event :=
  (list.zipIdx position).flatMap fun entry => tokenEvents entry.1 entry.2

/-- Tokens tell their events from the first to the last, each at a position of its own. -/
theorem listEvents_cons (position : Nat) (token : Token) (list : List Token) :
    listEvents position (token :: list) =
      tokenEvents token position ++ listEvents (position + 1) list := rfl

/-- The events of tokens in two parts are those of the first part and then those of the
second, whose positions go on. -/
theorem listEvents_append (position : Nat) (list later : List Token) :
    listEvents position (list ++ later) =
      listEvents position list ++ listEvents (position + list.length) later := by
  rw [listEvents, List.zipIdx_append, List.flatMap_append]
  rfl

/-- What a rule tells before its first token. -/
def Rule.opening (position : Nat) : Rule → List Event
  | .expression => [.expressionBegun position []]
  | .operand | .chain => []

/-- What a rule tells of the token that follows it, which must be a closing
parenthesis for a chain to end there. -/
def Rule.closing (position : Nat) (next : Option Token) : Rule → List Event
  | .operand => []
  | .chain | .expression =>
    match next with
    | none => []
    | some token => [.chainEnded position (.unexpectedToken token position)]

namespace Reading

/-- The events of the journal so far, as a log can show them. -/
def visible (reading : Reading tokens) : List Event :=
  reading.journal.toList.filterMap Event.visible?

/-- An event that is told is seen in a log if a log can show it. -/
@[simp] theorem visible_log (reading : Reading tokens) (event : Event) :
    (reading.log event).visible = reading.visible ++ event.visible?.toList := by
  simp only [visible, log, Array.toList_push, List.filterMap_append]
  cases event <;> rfl

/-- Putting a rejection aside shows nothing. -/
@[simp] theorem visible_note (reading : Reading tokens) (error : ParseError) :
    (reading.note error).visible = reading.visible := by
  rw [visible, journal_note, visible]

/-- Moving the cursor shows nothing. -/
@[simp] theorem visible_placeAt (position : Nat) (reading : Reading tokens) :
    (reading.placeAt position).visible = reading.visible := rfl

/-- Going past a token shows nothing. -/
@[simp] theorem visible_past (reading : Reading tokens) :
    reading.past.visible = reading.visible := rfl

/-- That the cursor was sent back is told but not shown. -/
@[simp] theorem visible_returnTo (target : Nat) (reading : Reading tokens) :
    (reading.returnTo target).visible = reading.visible := by
  simp [returnTo, Event.visible?]

/-- An operand that is no number has been tried as one. -/
theorem visible_noNumber (reading : Reading tokens) :
    reading.noNumber.visible = reading.visible ++ [.operandBegun reading.pos,
      .alternativeFailed .number (reading.pos + 1) (blame tokens reading.pos)] := by
  simp [noNumber, abandon, Event.visible?]

/-- A chain that ends tells so once, and the way back to its end is not shown. -/
theorem visible_endAt (start : Nat) (error : ParseError) (reading : Reading tokens) :
    (reading.endAt start error).visible = reading.visible ++ [.chainEnded start error] := by
  simp [endAt, endChain, Event.visible?]

end Reading

/-- What an accepting run takes and tells: the tokens up to where it stops, and their
events between those of the rule itself. -/
def Tells (rule : Rule) (reading after : Reading tokens) : Prop :=
  ∃ taken, reading.unread = taken ++ after.unread ∧ after.pos = reading.pos + taken.length ∧
    after.visible = reading.visible ++ (rule.opening reading.pos ++
      listEvents reading.pos taken ++ rule.closing after.pos after.cursor.peek)

/-- An accepting run tells the events of the tokens that it takes, provided that a
chain does not end in front of anything but a closing parenthesis.

Proof: induction on the run. The condition excludes the chains that stop in front of
an operator because its operand cannot be read; whatever such a step told would be
told for no token. Inside parentheses the condition holds because the closing
parenthesis was found. -/
theorem Run.tells {around : List Nat} {rule : Rule} {reading after : Reading tokens}
    {answer : Except ParseError (List Tree)} (run : Run around rule reading answer after)
    (forest : List Tree) (accepted : answer = .ok forest)
    (ends : rule ≠ .operand → ∀ token, after.cursor.peek = some token → token.kind = .closeParen) :
    Tells rule reading after := by
  induction run generalizing forest with
  | stray _ _ _ | openAtEnd _ _ _ | insideRejected _ _ _ _ | unclosed _ _ _ _ _
  | leadRejected _ _ => cases accepted
  | number next kind =>
    refine ⟨[_], Reading.unread_of_peek next, rfl, ?_⟩
    simp [Rule.opening, Rule.closing, listEvents, tokenEvents, kind, Event.visible?]
  | @closed around reading behind token closing inner next kind inside found closes
      inductionHypothesis =>
    have stops : ∀ other, behind.cursor.peek = some other → other.kind = .closeParen := by
      intro other same
      cases found.symm.trans same
      exact closes
    obtain ⟨taken, split, place, told⟩ := inductionHypothesis _ rfl fun _ => stops
    rw [Reading.unread_noNumber, Reading.unread_of_peek found] at split
    simp only [Reading.pos_past, Reading.pos_noNumber, Reading.visible_past,
      Reading.visible_noNumber, blame_of_token next, found] at place told
    refine ⟨token :: taken ++ [closing], ?_, ?_, ?_⟩
    · rw [Reading.unread_of_peek next, split]
      simp
    · rw [Reading.pos_past, place]
      simp
      omega
    · rw [Reading.visible_past, told, List.cons_append, listEvents_cons, listEvents_append, ← place]
      simp [Rule.opening, Rule.closing, listEvents, tokenEvents, kind, closes]
  | exhausted ended =>
    refine ⟨[], rfl, rfl, ?_⟩
    simp [Rule.opening, Rule.closing, listEvents, ended]
  | @noOperator around reading token next notSign =>
    refine ⟨[], rfl, rfl, ?_⟩
    have here : (reading.past.endAt reading.pos (blame tokens reading.pos)).cursor.peek =
      some token := next
    rw [Reading.visible_endAt, here, blame_of_token next]
    simp [Rule.opening, Rule.closing, listEvents]
  | @operatorAtEnd around reading token sign next isSign last =>
    have closes := ends nofun token next
    simp [Token.sign?, closes] at isSign
  | @linkRejected around reading behind token sign error next isSign link _ =>
    have closes := ends nofun token next
    simp [Token.sign?, closes] at isSign
  | @linked around reading behind after token sign link later next isSign linkRun rest
      linkHypothesis restHypothesis =>
    obtain ⟨taken, split, place, told⟩ := linkHypothesis _ rfl (absurd rfl)
    obtain ⟨further, restSplit, restPlace, restTold⟩ := restHypothesis _ rfl fun _ => ends nofun
    rw [Reading.pos_past] at place told
    refine ⟨token :: (taken ++ further), ?_, ?_, ?_⟩
    · rw [Reading.unread_of_peek next, split, restSplit]
      simp
    · rw [restPlace, place]
      simp
      omega
    · have kind : token.kind = .operator sign := congrArg Prod.fst (Token.essence_of_sign isSign)
      have silent : tokenEvents token reading.pos = [] := by simp [tokenEvents, kind]
      rw [restTold, told, listEvents_cons, listEvents_append, ← place, silent]
      simp [Rule.opening, Rule.closing]
  | @led enclosing reading behind after lead later leadRun rest leadHypothesis restHypothesis =>
    obtain ⟨taken, split, place, told⟩ := leadHypothesis _ rfl (absurd rfl)
    obtain ⟨further, restSplit, restPlace, restTold⟩ := restHypothesis _ rfl fun _ => ends nofun
    rw [Reading.unread_log] at split
    rw [Reading.pos_log] at place told
    refine ⟨taken ++ further, ?_, ?_, ?_⟩
    · rw [split, restSplit, List.append_assoc]
    · rw [restPlace, place, List.length_append, Nat.add_assoc]
    · rw [restTold, told, Reading.visible_log, listEvents_append, ← place]
      simp [Rule.opening, Rule.closing, Event.visible?]

/-- The journal of a token list that is accepted tells of one expression from the first
token on, and then the events of all tokens.

Proof: the run stops at the end of the list. It has taken all tokens, and there is none in
front of which its chain could have ended. -/
theorem journal_of_accepted {list : List Token} {tree : Tree}
    (accepted : Tree.ofTokens list = .ok tree) :
    (parse list.toArray).journal.toList.filterMap Event.visible? =
      .expressionBegun 0 [] :: listEvents 0 list := by
  have inside : 0 < list.toArray.size := by
    apply List.length_pos_iff.mpr
    rintro rfl
    cases accepted
  obtain ⟨answer, after, run, concluded⟩ := parse_concludes Rewind.checked_faithful inside
  have result : (conclude answer after).result = .ok tree := concluded ▸ accepted
  obtain ⟨forest, rfl, rfl, ended⟩ := conclude_eq_ok result
  obtain ⟨taken, split, _, told⟩ := run.tells forest rfl fun _ token next => by
    rw [ended] at next
    cases next
  rw [Reading.unread_start, (Reading.unread_eq_nil_iff after).mpr ended, List.append_nil] at split
  obtain rfl : list = taken := split
  have journal : (parse list.toArray).journal = after.journal := by
    rw [parse, concluded, journal_conclude]
  have begun : (Reading.start list.toArray).visible = [] := rfl
  have atStart : (Reading.start list.toArray).pos = 0 := rfl
  rw [begun, ended, atStart] at told
  rw [journal]
  change after.visible = _
  rw [told]
  simp [Rule.opening, Rule.closing]

/-- What is gathered from the events of a journal, if a log can show it, is gathered from
what the log shows. -/
theorem filterMap_visible {Item : Type} {gather : Event → Option Item}
    (seen : ∀ event, gather event = event.visible?.bind gather) (events : List Event) :
    events.filterMap gather = (events.filterMap Event.visible?).filterMap gather := by
  rw [List.filterMap_filterMap]
  exact congrArg (List.filterMap · _) (funext seen)

/-- What is gathered from what a log can show of the events is gathered from those of
the tokens. -/
theorem gathered_of_accepted {Item : Type} {gather : Event → Option Item}
    (seen : ∀ event, gather event = event.visible?.bind gather) {list : List Token} {tree : Tree}
    (accepted : Tree.ofTokens list = .ok tree) :
    (parse list.toArray).journal.toList.filterMap gather =
      (gather (.expressionBegun 0 [])).toList ++ (listEvents 0 list).filterMap gather := by
  rw [filterMap_visible seen, journal_of_accepted accepted, List.filterMap_cons]
  cases gather (.expressionBegun 0 []) <;> rfl

/-- The position at which an operand begins, if that is what an event tells. -/
def Event.operandStart? : Event → Option Nat
  | .operandBegun position => some position
  | _ => none

/-- Whether an operand can begin with a token of this kind. -/
def beginsOperand : Token.Kind → Bool
  | .number | .openParen => true
  | .closeParen | .operator _ => false

/-- A token tells at its own position that an operand begins, if its kind can begin one. -/
theorem operandStarts_tokenEvents (token : Token) (position : Nat) :
    (tokenEvents token position).filterMap Event.operandStart? =
      if beginsOperand token.kind then [position] else [] := by
  cases kind : token.kind <;> simp [tokenEvents, beginsOperand, Event.operandStart?, kind]

/-- Tokens tell the beginnings of operands where an operand can begin. -/
theorem operandStarts_listEvents (position : Nat) (list : List Token) :
    (listEvents position list).filterMap Event.operandStart? =
      ((list.zipIdx position).filter fun entry => beginsOperand entry.1.kind).map Prod.snd := by
  rw [listEvents]
  generalize list.zipIdx position = entries
  induction entries with
  | nil => rfl
  | cons entry later inductionHypothesis =>
    rw [List.flatMap_cons, List.filterMap_append, operandStarts_tokenEvents, inductionHypothesis,
      List.filter_cons]
    split <;> rfl

/-- Whether an operand begins can be told from what a log shows of an event. -/
theorem Event.operandStart?_seen (event : Event) :
    event.operandStart? = event.visible?.bind Event.operandStart? := by
  cases event <;> rfl

/-- The positions at which operands begin in the journal of an accepted list are those
of its numbers and opening parentheses, each of them once and in order. -/
theorem operandStarts_of_accepted {list : List Token} {tree : Tree}
    (accepted : Tree.ofTokens list = .ok tree) :
    (parse list.toArray).journal.toList.filterMap Event.operandStart? =
      (list.zipIdx.filter fun entry => beginsOperand entry.1.kind).map Prod.snd := by
  rw [gathered_of_accepted Event.operandStart?_seen accepted, operandStarts_listEvents]
  rfl

/-- Operands begin further on each time, because the tokens that begin them do. -/
theorem operandStarts_increasing (list : List Token) :
    ((list.zipIdx.filter fun entry => beginsOperand entry.1.kind).map Prod.snd).Pairwise
      (· < ·) := by
  have positions : (list.zipIdx.map Prod.snd).Pairwise (· < ·) := by
    rw [List.zipIdx_map_snd]
    exact List.pairwise_lt_range'
  exact positions.sublist (List.filter_sublist.map Prod.snd)

/-- An event of the second alternative is not among those of an accepted list. -/
theorem parenthesized_never_failed {list : List Token} {tree : Tree}
    (accepted : Tree.ofTokens list = .ok tree) (position : Nat) (error : ParseError) :
    .alternativeFailed .parenthesized position error ∉ (parse list.toArray).journal.toList := by
  intro failed
  have shown : .alternativeFailed .parenthesized position error ∈
      (parse list.toArray).journal.toList.filterMap Event.visible? :=
    List.mem_filterMap.mpr ⟨_, failed, rfl⟩
  rw [journal_of_accepted accepted] at shown
  rcases List.mem_cons.mp shown with impossible | shown
  · cases impossible
  · obtain ⟨entry, _, told⟩ := List.mem_flatMap.mp shown
    cases kind : entry.1.kind <;> simp [tokenEvents, kind] at told

end Reckoner.Grammar

namespace Reckoner

open Grammar (beginsOperand tokenEvents listEvents)

/-- The records of a token at a position in the log of an accepted text. -/
def Log.ofAcceptedToken (token : Token) (position : Nat) : List Log.Record :=
  let place := Decimal.writeNat position
  let next := Decimal.writeNat (position + 1)
  match token.kind with
  | .number => [⟨.trace, .parse, "E' at " ++ place⟩]
  | .openParen => [⟨.trace, .parse, "E' at " ++ place⟩,
      ⟨.debug, .parse,
        "E' alternative 1 failed at " ++ next ++ ": unexpected token \"(\" at " ++ place⟩,
      ⟨.trace, .parse, "E at " ++ next⟩]
  | .closeParen => [⟨.debug, .parse,
      "E ends at " ++ place ++ ": unexpected token \")\" at " ++ place⟩]
  | .operator _ => []

/-- The message for a token, from its first part with the token's text filled in. -/
theorem ParseError.message_of_spelled {token : Token} {text : String}
    (spelled : "unexpected token \"" ++ token.value ++ "\" at " = text) (position : Nat) :
    (unexpectedToken token position).message = text ++ Decimal.writeNat position :=
  congrArg (· ++ Decimal.writeNat position) spelled

namespace Log

/-- A number is the first alternative. -/
theorem ofEvent?_notNumber (position : Nat) (error : ParseError) :
    ofEvent? (.alternativeFailed .number position error) =
      some ⟨.debug, .parse, "E' alternative 1 failed at " ++ Decimal.writeNat position ++ ": " ++
        error.message⟩ := by
  have tried : "E' alternative " ++ Decimal.writeNat Grammar.Alternative.number.ordinal ++
      " failed at " = "E' alternative 1 failed at " := rfl
  rw [ofEvent?, tried]

/-- An opening parenthesis is recorded as one that was tried as a number. -/
theorem ofEvent?_tried (position : Nat) :
    ofEvent? (.alternativeFailed .number (position + 1) (.unexpectedToken .openParen position)) =
      some ⟨.debug, .parse, "E' alternative 1 failed at " ++ Decimal.writeNat (position + 1) ++
        ": unexpected token \"(\" at " ++ Decimal.writeNat position⟩ := by
  have blamed : (ParseError.unexpectedToken .openParen position).message =
    "unexpected token \"(\" at " ++ Decimal.writeNat position := ParseError.message_of_spelled rfl _
  have joined : ": " ++ "unexpected token \"(\" at " = ": unexpected token \"(\" at " := rfl
  rw [ofEvent?_notNumber, blamed, ← joined]
  simp only [String.append_assoc]

/-- A closing parenthesis is recorded as one that ends a chain. -/
theorem ofEvent?_ended (position : Nat) :
    ofEvent? (.chainEnded position (.unexpectedToken .closeParen position)) =
      some ⟨.debug, .parse, "E ends at " ++ Decimal.writeNat position ++
        ": unexpected token \")\" at " ++ Decimal.writeNat position⟩ := by
  have blamed : (ParseError.unexpectedToken .closeParen position).message =
    "unexpected token \")\" at " ++ Decimal.writeNat position := ParseError.message_of_spelled rfl _
  have joined : ": " ++ "unexpected token \")\" at " = ": unexpected token \")\" at " := rfl
  rw [ofEvent?, blamed, ← joined]
  simp only [String.append_assoc]

/-- The records of the events of a token that was scanned. -/
theorem ofAcceptedToken_eq {token : Token} (wellFormed : token.isWellFormed = true)
    (position : Nat) :
    (tokenEvents token position).filterMap ofEvent? = ofAcceptedToken token position := by
  obtain ⟨kind, value⟩ := token
  cases kind with
  | number | operator sign => rfl
  | openParen =>
    obtain rfl : value = "(" := of_decide_eq_true wellFormed
    have begun : ofEvent? (.operandBegun position) = some _ := rfl
    have inner : ofEvent? (.expressionBegun (position + 1) []) = some _ := rfl
    change List.filterMap ofEvent? [_, .alternativeFailed .number (position + 1)
      (.unexpectedToken .openParen position), _] = _
    rw [List.filterMap_cons_some begun, List.filterMap_cons_some (ofEvent?_tried position),
      List.filterMap_cons_some inner]
    rfl
  | closeParen =>
    obtain rfl : value = ")" := of_decide_eq_true wellFormed
    exact List.filterMap_cons_some (ofEvent?_ended position)

/-- The record of an event is that of what a log can show of it. -/
theorem ofEvent?_seen (event : Grammar.Event) :
    ofEvent? event = event.visible?.bind ofEvent? := by
  cases event <;> rfl

/-- The log of a token list that is accepted, if its tokens were scanned. -/
theorem ofTokens_of_accepted {list : List Token} {tree : Tree}
    (accepted : Tree.ofTokens list = .ok tree)
    (wellFormed : ∀ token ∈ list, token.isWellFormed = true) :
    ofTokens list = ⟨.trace, .parse, "E at 0"⟩ ::
      list.zipIdx.flatMap fun entry => ofAcceptedToken entry.1 entry.2 := by
  have records : ∀ entry ∈ list.zipIdx, (tokenEvents entry.1 entry.2).filterMap ofEvent? =
      ofAcceptedToken entry.1 entry.2 := fun entry member =>
    ofAcceptedToken_eq (wellFormed entry.1 (List.fst_mem_of_mem_zipIdx member)) entry.2
  rw [ofTokens, Grammar.gathered_of_accepted ofEvent?_seen accepted, listEvents,
    List.filterMap_flatMap]
  exact congrArg (_ :: ·) (congrArg List.flatten (List.map_congr_left records))

/-- The tokens of an input are those of its lexemes. -/
theorem exists_lexemes {bytes : List UInt8} {tokens : List Token}
    (scanned : tokenize bytes = .ok tokens) : ∃ lexemes, Scan.ofBytes bytes = ⟨lexemes, none⟩ ∧
      tokens = lexemes.map Lexeme.token := by
  obtain ⟨ended, found⟩ := (tokenize_eq_ok_iff bytes tokens).mp scanned
  exact ⟨(Scan.ofBytes bytes).lexemes, by rw [← ended], found.symm⟩

end Log

end Reckoner
