import Reckoner.Grammar.Parse

/-!
# Runs of the rules

A run says what a rule does from a reading with input left: which forest it
appends or why it fails, and which reading it leaves behind. The relation has one
constructor for each way through a rule. Trees are not threaded through a run, so
the forest a rule appends visibly does not depend on the tree it extends, and no
way of sending cursors back is fixed.

Every seek in a run has a target in front of a token. A rewind that reaches all
such targets is faithful, and with a faithful rewind the rules do exactly what the
runs say. Properties of the parser are therefore proved by induction on runs, and
the rules themselves are opened in this module only.
-/

namespace Reckoner

/-- Appends trees as the last children of the root. -/
def Tree.append : Tree → List Tree → Tree
  | .node kind children, forest => .node kind (children ++ forest)

/-- Pushing a tree is appending a forest of one, so a tree that grows is always told by
`append`. -/
@[simp] theorem Tree.push_eq_append (tree child : Tree) :
    tree.push child = tree.append [child] := by
  cases tree
  rfl

/-- A group that was grown from nothing hands over its children. This is how a chain takes
a step, whose operator and operand were gathered in a group of their own. -/
@[simp] theorem Tree.extend_append_emptyGroup (tree : Tree) (forest : List Tree) :
    tree.extend (Tree.emptyGroup.append forest) = tree.append forest := by
  cases tree
  rfl

/-- A tree to which nothing is appended stays as it is. -/
@[simp] theorem Tree.append_nil (tree : Tree) : tree.append [] = tree := by
  cases tree
  simp [Tree.append]

/-- Forests that are appended one after the other are appended as one. -/
@[simp] theorem Tree.append_append (tree : Tree) (forest later : List Tree) :
    (tree.append forest).append later = tree.append (forest ++ later) := by
  cases tree
  simp [Tree.append]

end Reckoner

namespace Reckoner.Grammar

variable {tokens : Array Token}

/-- The rejection of what stands at a position: of the token there, or of the end
of the list. -/
def blame (tokens : Array Token) (position : Nat) : ParseError :=
  match tokens[position]? with
  | some token => .unexpectedToken token position
  | none => .unexpectedEndOfInput

/-- In front of a token, that token is to blame. -/
theorem blame_of_token {position : Nat} {token : Token} (found : tokens[position]? = some token) :
    blame tokens position = .unexpectedToken token position := by
  simp [blame, found]

/-- Where there is no token, the end of the list is to blame. -/
theorem blame_of_end {position : Nat} (ended : tokens[position]? = none) :
    blame tokens position = .unexpectedEndOfInput := by
  simp [blame, ended]

/-- A rewind that reaches every target in front of a token. -/
def Rewind.Faithful (rewind : Rewind tokens) : Prop :=
  ∀ cursor target, target < tokens.size → rewind.move cursor target = .ok ⟨target⟩

/-- The checked way is faithful: a seek refuses only targets behind the last token. -/
theorem Rewind.checked_faithful : (Rewind.checked : Rewind tokens).Faithful := by
  intro cursor target inside
  simp [Rewind.checked, Cursor.seek, Cursor.size, inside]

/-- The unchecked way is faithful, since it refuses nothing. -/
theorem Rewind.unchecked_faithful : (Rewind.unchecked : Rewind tokens).Faithful := by
  intro cursor target _
  rfl

namespace Reading

/-- The reading with its cursor at another position. -/
def placeAt (position : Nat) (reading : Reading tokens) : Reading tokens :=
  { reading with cursor := ⟨position⟩ }

/-- The reading behind its next token. -/
def past (reading : Reading tokens) : Reading tokens := reading.placeAt (reading.pos + 1)

/-- The reading behind its next token, if it has one. -/
def skip (reading : Reading tokens) : Reading tokens :=
  if reading.cursor.isExhausted then reading else reading.past

/-- The reading sent back to a target that the cursor reached. -/
def returnTo (target : Nat) (reading : Reading tokens) : Reading tokens :=
  (reading.log (.sentBack target true)).placeAt target

/-- The start of an operand that is no number, with that alternative put aside. -/
def noNumber (reading : Reading tokens) : Reading tokens :=
  ((reading.log (.operandBegun reading.pos)).past.abandon .number
    (blame tokens reading.pos)).returnTo reading.pos

/-- The end of an operand that began at `start` and is no expression in
parentheses either. -/
def noOperand (start : Nat) (error : ParseError) (reading : Reading tokens) : Reading tokens :=
  (reading.abandon .parenthesized error).returnTo start

/-- The end of a chain at `start`, with the step behind it put aside. -/
def endAt (start : Nat) (error : ParseError) (reading : Reading tokens) : Reading tokens :=
  (reading.endChain start error).returnTo start

/-- Telling the journal does not move the cursor. -/
@[simp] theorem pos_log (reading : Reading tokens) (event : Event) :
    (reading.log event).pos = reading.pos := rfl

/-- Behind its next token a reading stands one position further. -/
@[simp] theorem pos_past (reading : Reading tokens) : reading.past.pos = reading.pos + 1 := rfl

/-- An operand that is no number is tried again from where it began. -/
@[simp] theorem pos_noNumber (reading : Reading tokens) : reading.noNumber.pos = reading.pos := rfl

/-- A chain that ends leaves the cursor in front of the step that failed. -/
@[simp] theorem pos_endAt (start : Nat) (error : ParseError) (reading : Reading tokens) :
    (reading.endAt start error).pos = start := rfl

/-- Behind its next token a reading has less input left. -/
theorem left_past {reading : Reading tokens} (inside : reading.pos < tokens.size) :
    reading.past.left < reading.left :=
  Nat.sub_lt_sub_left inside (Nat.lt_succ_self reading.pos)

/-- A reading is exhausted exactly if it has no next token. -/
theorem isExhausted_iff (reading : Reading tokens) :
    reading.cursor.isExhausted = true ↔ reading.cursor.peek = none := by
  simp [Cursor.isExhausted, Cursor.peek]

/-- A reading that is not exhausted is inside the list. -/
theorem inside_of_running {reading : Reading tokens}
    (running : ¬ reading.cursor.isExhausted = true) : reading.pos < tokens.size := by
  simpa [Cursor.isExhausted] using running

/-- Behind the last token, the end of the list is to blame. -/
theorem last_of_exhausted {reading : Reading tokens} (inside : reading.pos < tokens.size)
    (ended : reading.past.cursor.isExhausted = true) :
    tokens.size = reading.pos + 1 ∧ blame tokens (reading.pos + 1) = .unexpectedEndOfInput := by
  have behind : tokens.size ≤ reading.pos + 1 := of_decide_eq_true ended
  exact ⟨by omega, blame_of_end (Array.getElem?_eq_none behind)⟩

/-- A reading with a next token is inside the list. -/
theorem inside_of_peek {reading : Reading tokens} {token : Token}
    (next : reading.cursor.peek = some token) : reading.pos < tokens.size :=
  (Array.getElem?_eq_some_iff.mp next).1

/-- The tokens that have not been read. -/
def unread (reading : Reading tokens) : List Token := tokens.toList.drop reading.pos

/-- The journal has nothing to do with what is unread. -/
@[simp] theorem unread_log (reading : Reading tokens) (event : Event) :
    (reading.log event).unread = reading.unread := rfl

/-- Giving up the first alternative of an operand changes nothing of what is read behind
the operand's first token. -/
@[simp] theorem unread_noNumber (reading : Reading tokens) :
    reading.noNumber.past.unread = reading.past.unread := rfl

/-- At the start all tokens are unread. -/
@[simp] theorem unread_start : (start tokens).unread = tokens.toList := rfl

/-- Only the position decides what is unread. -/
theorem unread_endAt (start : Nat) (error : ParseError) {reading other : Reading tokens}
    (same : start = other.pos) : (reading.endAt start error).unread = other.unread := by
  simp [unread, same]

/-- The next token is the first unread one, if there is any. -/
theorem peek_eq_head? (reading : Reading tokens) : reading.cursor.peek = reading.unread.head? := by
  simp [Cursor.peek, unread, List.head?_drop]

/-- The next token is the first unread one. -/
theorem unread_of_peek {reading : Reading tokens} {token : Token}
    (next : reading.cursor.peek = some token) : reading.unread = token :: reading.past.unread := by
  obtain ⟨inside, found⟩ := Array.getElem?_eq_some_iff.mp next
  have bound : reading.pos < tokens.toList.length := inside
  rw [unread, List.drop_eq_getElem_cons bound]
  exact congrArg (· :: reading.past.unread) found

/-- Nothing is unread exactly if there is no next token. -/
theorem unread_eq_nil_iff (reading : Reading tokens) :
    reading.unread = [] ↔ reading.cursor.peek = none := by
  rw [peek_eq_head?, List.head?_eq_none_iff]

end Reading

/-- The rules that a run can be of. The step of a chain and the expression in
parentheses are parts of the runs of the rules that call them. -/
inductive Rule where
  | operand
  | chain
  | expression
deriving DecidableEq, Repr

/-- `Run around rule reading answer after`: from `reading`, inside the expressions
begun at the positions `around`, the rule comes to `answer` and leaves `after`. -/
inductive Run : List Nat → Rule → Reading tokens → Except ParseError (List Tree) →
    Reading tokens → Prop where
  /-- A number is an operand. -/
  | number {around : List Nat} {reading : Reading tokens} {token : Token}
      (next : reading.cursor.peek = some token) (kind : token.kind = .number) :
      Run around .operand reading (.ok [.number token.value])
        (reading.log (.operandBegun reading.pos)).past
  /-- A token that starts no operand. -/
  | stray {around : List Nat} {reading : Reading tokens} {token : Token}
      (next : reading.cursor.peek = some token) (notNumber : token.kind ≠ .number)
      (notOpen : token.kind ≠ .openParen) :
      Run around .operand reading (.error (blame tokens reading.pos))
        (reading.noNumber.past.noOperand reading.pos (blame tokens reading.pos))
  /-- Nothing follows an opening parenthesis. -/
  | openAtEnd {around : List Nat} {reading : Reading tokens} {token : Token}
      (next : reading.cursor.peek = some token) (kind : token.kind = .openParen)
      (last : tokens.size = reading.pos + 1) :
      Run around .operand reading (.error (blame tokens (reading.pos + 1)))
        (reading.noNumber.past.noOperand reading.pos (blame tokens (reading.pos + 1)))
  /-- No expression follows an opening parenthesis. -/
  | insideRejected {around : List Nat} {reading behind : Reading tokens} {token : Token}
      {error : ParseError} (next : reading.cursor.peek = some token)
      (kind : token.kind = .openParen)
      (inside : Run around .expression reading.noNumber.past (.error error) behind) :
      Run around .operand reading (.error error) (behind.noOperand reading.pos error)
  /-- The expression in parentheses ends in front of something else than the
  closing one. -/
  | unclosed {around : List Nat} {reading behind : Reading tokens} {token : Token}
      {forest : List Tree} (next : reading.cursor.peek = some token)
      (kind : token.kind = .openParen)
      (inside : Run around .expression reading.noNumber.past (.ok forest) behind)
      (missing : ∀ other, behind.cursor.peek = some other → other.kind ≠ .closeParen) :
      Run around .operand reading (.error (blame tokens behind.pos))
        (behind.skip.noOperand reading.pos (blame tokens behind.pos))
  /-- An expression in parentheses is an operand. -/
  | closed {around : List Nat} {reading behind : Reading tokens} {token closing : Token}
      {forest : List Tree} (next : reading.cursor.peek = some token)
      (kind : token.kind = .openParen)
      (inside : Run around .expression reading.noNumber.past (.ok forest) behind)
      (found : behind.cursor.peek = some closing) (closes : closing.kind = .closeParen) :
      Run around .operand reading (.ok [.node .group forest]) behind.past
  /-- A chain ends with the list. -/
  | exhausted {around : List Nat} {reading : Reading tokens}
      (ended : reading.cursor.peek = none) : Run around .chain reading (.ok []) reading
  /-- A chain ends in front of a token that is no operator. -/
  | noOperator {around : List Nat} {reading : Reading tokens} {token : Token}
      (next : reading.cursor.peek = some token) (notSign : token.sign? = none) :
      Run around .chain reading (.ok []) (reading.past.endAt reading.pos (blame tokens reading.pos))
  /-- A chain ends in front of an operator that is the last token. -/
  | operatorAtEnd {around : List Nat} {reading : Reading tokens} {token : Token} {sign : Sign}
      (next : reading.cursor.peek = some token) (isSign : token.sign? = some sign)
      (last : tokens.size = reading.pos + 1) :
      Run around .chain reading (.ok [])
        (reading.past.endAt reading.pos (blame tokens (reading.pos + 1)))
  /-- A chain ends in front of an operator that no operand follows. -/
  | linkRejected {around : List Nat} {reading behind : Reading tokens} {token : Token}
      {sign : Sign} {error : ParseError} (next : reading.cursor.peek = some token)
      (isSign : token.sign? = some sign)
      (link : Run around .operand reading.past (.error error) behind) :
      Run around .chain reading (.ok []) (behind.endAt reading.pos error)
  /-- A chain goes on with an operator and an operand. -/
  | linked {around : List Nat} {reading behind after : Reading tokens} {token : Token}
      {sign : Sign} {forest later : List Tree} (next : reading.cursor.peek = some token)
      (isSign : token.sign? = some sign)
      (link : Run around .operand reading.past (.ok forest) behind)
      (rest : Run around .chain behind (.ok later) after) :
      Run around .chain reading (.ok (.operator sign :: forest ++ later)) after
  /-- An expression fails with its first operand. -/
  | leadRejected {enclosing : List Nat} {reading behind : Reading tokens} {error : ParseError}
      (lead : Run (reading.pos :: enclosing) .operand
        (reading.log (.expressionBegun reading.pos enclosing)) (.error error) behind) :
      Run enclosing .expression reading (.error error) behind
  /-- An expression is an operand and the chain behind it. -/
  | led {enclosing : List Nat} {reading behind after : Reading tokens}
      {forest later : List Tree}
      (lead : Run (reading.pos :: enclosing) .operand
        (reading.log (.expressionBegun reading.pos enclosing)) (.ok forest) behind)
      (rest : Run (reading.pos :: enclosing) .chain behind (.ok later) after) :
      Run enclosing .expression reading (.ok (forest ++ later)) after

namespace Run

/-- Operands and expressions are read from readings with input left only. -/
theorem begins_inside {around : List Nat} {rule : Rule} {reading after : Reading tokens}
    {answer : Except ParseError (List Tree)} (run : Run around rule reading answer after)
    (notChain : rule ≠ .chain) : reading.pos < tokens.size := by
  induction run with
  | number next _ | stray next _ _ | openAtEnd next _ _ | insideRejected next _ _ _
  | unclosed next _ _ _ _ | closed next _ _ _ _ _ => exact Reading.inside_of_peek next
  | leadRejected lead inductionHypothesis => exact inductionHypothesis (by decide)
  | led lead rest inductionHypothesis _ => exact inductionHypothesis (by decide)
  | exhausted _ | noOperator _ _ | operatorAtEnd _ _ _ | linkRejected _ _ _ _
  | linked _ _ _ _ _ _ =>
    exact absurd rfl notChain

/-- How a rule with the given answer moves a cursor. A failed rule leaves it where
it was, and an operand or an expression takes at least one token. -/
def Moves (rule : Rule) (answer : Except ParseError (List Tree)) (start stop : Nat) : Prop :=
  match rule, answer with
  | .chain, _ => start ≤ stop
  | .operand, .ok _ | .expression, .ok _ => start < stop
  | .operand, .error _ | .expression, .error _ => stop = start

/-- A run inside the list stays inside and moves the cursor as its rule allows.

Proof: induction on the run. A rule that fails has sent the cursor back to where it
began. -/
theorem moves {around : List Nat} {rule : Rule} {reading after : Reading tokens}
    {answer : Except ParseError (List Tree)} (run : Run around rule reading answer after)
    (within : reading.pos ≤ tokens.size) :
    after.pos ≤ tokens.size ∧ Moves rule answer reading.pos after.pos := by
  induction run with
  | number next _ => exact ⟨Reading.inside_of_peek next, Nat.lt_succ_self _⟩
  | stray _ _ _ | openAtEnd _ _ _ | insideRejected _ _ _ _ | unclosed _ _ _ _ _ =>
    exact ⟨within, rfl⟩
  | closed next kind inside found closes inductionHypothesis =>
    obtain ⟨_, forward⟩ := inductionHypothesis (Reading.inside_of_peek next)
    simp only [Moves, Reading.pos_past, Reading.pos_noNumber] at forward ⊢
    exact ⟨Reading.inside_of_peek found, by omega⟩
  | exhausted _ | noOperator _ _ | operatorAtEnd _ _ _ | linkRejected _ _ _ _ =>
    exact ⟨within, Nat.le_refl _⟩
  | linked next isSign link rest linkHypothesis restHypothesis =>
    obtain ⟨linkWithin, linkMoves⟩ := linkHypothesis (Reading.inside_of_peek next)
    obtain ⟨restWithin, restMoves⟩ := restHypothesis linkWithin
    simp only [Moves, Reading.pos_past] at linkMoves restMoves ⊢
    exact ⟨restWithin, by omega⟩
  | leadRejected lead inductionHypothesis => exact inductionHypothesis within
  | led lead rest leadHypothesis restHypothesis =>
    obtain ⟨leadWithin, leadMoves⟩ := leadHypothesis within
    obtain ⟨restWithin, restMoves⟩ := restHypothesis leadWithin
    simp only [Moves, Reading.pos_log] at leadMoves restMoves ⊢
    exact ⟨restWithin, by omega⟩

/-- A reading has one run of each rule. The token at the start picks the
constructor, and where the rule goes on inside, the induction fixes where and how
that ends. -/
theorem functional {around : List Nat} {rule : Rule} {reading after other : Reading tokens}
    {answer reply : Except ParseError (List Tree)} (left : Run around rule reading answer after)
    (right : Run around rule reading reply other) : answer = reply ∧ after = other := by
  induction left generalizing reply other with
  | number next kind => cases right <;> grind
  | stray next notNumber notOpen => cases right <;> grind
  | openAtEnd next kind last =>
    cases right with
    | insideRejected _ _ inside | unclosed _ _ inside _ | closed _ _ inside _ _ =>
      have more := inside.begins_inside (by decide)
      simp only [Reading.pos_past, Reading.pos_noNumber] at more
      omega
    | _ => grind
  | insideRejected next kind inside inductionHypothesis
  | unclosed next kind inside _ inductionHypothesis
  | closed next kind inside _ _ inductionHypothesis =>
    have more := inside.begins_inside (by decide)
    cases right <;> grind [Reading.pos_past, Reading.pos_noNumber]
  | exhausted ended => cases right <;> grind
  | noOperator next notSign => cases right <;> grind
  | operatorAtEnd next isSign last =>
    cases right with
    | linkRejected _ _ link | linked _ _ link _ =>
      have more := link.begins_inside (by decide)
      simp only [Reading.pos_past] at more
      omega
    | _ => grind
  | linkRejected next isSign link inductionHypothesis
  | linked next isSign link rest inductionHypothesis _ =>
    have more := link.begins_inside (by decide)
    cases right <;> grind [Reading.pos_past]
  | leadRejected lead inductionHypothesis => cases right <;> grind
  | led lead rest ihLead ihRest => cases right <;> grind

end Run

/-! ## The rules follow runs -/

namespace Outcome

variable {α : Type} {bound : Nat}

/-- What an outcome comes to, and the reading it leaves behind. -/
def final : Outcome tokens bound α → Except ParseError α × Reading tokens
  | .accepted value after _ => (.ok value, after)
  | .rejected error after => (.error error, after)

/-- An outcome that comes to a value is an accepting one. Besides the value and the reading
it holds the evidence only that input was taken. -/
theorem exists_accepted {outcome : Outcome tokens bound α} {value : α} {after : Reading tokens}
    (accepted : outcome.final = (.ok value, after)) :
    ∃ advanced, outcome = .accepted value after advanced := by
  cases outcome with
  | accepted other behind advanced =>
    cases accepted
    exact ⟨advanced, rfl⟩
  | rejected error behind => cases accepted

/-- An outcome that comes to an error is the rejecting one with that error. -/
theorem eq_rejected {outcome : Outcome tokens bound α} {error : ParseError}
    {after : Reading tokens} (rejected : outcome.final = (.error error, after)) :
    outcome = .rejected error after := by
  cases outcome with
  | accepted value behind advanced => cases rejected
  | rejected other behind =>
    cases rejected
    rfl

end Outcome

/-- An outcome that a run accounts for: an accepting one extends the tree by the
forest of the run. -/
def Outcome.Agrees {bound : Nat} (tree : Tree)
    (run : Except ParseError (List Tree) → Reading tokens → Prop) :
    Outcome tokens bound Tree → Prop
  | .accepted value after _ => ∃ forest, value = tree.append forest ∧ run (.ok forest) after
  | .rejected error after => run (.error error) after

/-- An outcome that agrees with a run comes to the answer of the run. -/
theorem Outcome.Agrees.exists_run {bound : Nat} {tree : Tree}
    {run : Except ParseError (List Tree) → Reading tokens → Prop}
    {outcome : Outcome tokens bound Tree} (agrees : outcome.Agrees tree run) :
    ∃ answer after, run answer after ∧ outcome.final = (answer.map tree.append, after) := by
  cases outcome with
  | accepted value after advanced =>
    obtain ⟨forest, rfl, ran⟩ := agrees
    exact ⟨.ok forest, after, ran, rfl⟩
  | rejected error after => exact ⟨.error error, after, agrees, rfl⟩

namespace Reading

variable {α : Type} {reading : Reading tokens}

/-- In front of a token, skipping is going past it. -/
theorem skip_of_peek {token : Token} (next : reading.cursor.peek = some token) :
    reading.skip = reading.past := by
  have running : ¬ reading.cursor.isExhausted = true := by simp [isExhausted_iff, next]
  simp [skip, running]

/-- A token that `choose` makes something of is taken, and the reading goes past it. -/
theorem take_accepts {choose : Token → Option α} {token : Token} {value : α}
    (next : reading.cursor.peek = some token) (chosen : choose token = some value) :
    ∃ advanced, reading.take choose = .accepted value reading.past advanced := by
  have read : reading.cursor.read = .ok (token, ⟨reading.pos + 1⟩) := by
    simp [Cursor.read, next]
  refine ⟨Cursor.left_of_read read, ?_⟩
  unfold take
  split
  · rename_i error found
    cases found.symm.trans read
  · rename_i other cursor found
    obtain ⟨rfl, rfl⟩ := Prod.mk.inj (Except.ok.inj (found.symm.trans read))
    simp only [chosen]
    rfl

/-- A token that is refused has been read and is blamed; at the end of the list
the end is. -/
theorem take_refuses {choose : Token → Option α}
    (refused : ∀ token, reading.cursor.peek = some token → choose token = none) :
    reading.take choose = .rejected (blame tokens reading.pos) reading.skip := by
  cases next : reading.cursor.peek with
  | none =>
    have read : reading.cursor.read = .error .endOfInput := by simp [Cursor.read, next]
    have ended : reading.cursor.isExhausted = true := (isExhausted_iff reading).mpr next
    unfold take
    split
    · rename_i error found
      cases found.symm.trans read
      simp [skip, ended, blame_of_end next, ParseError.ofCursor]
    · rename_i found
      cases found.symm.trans read
  | some token =>
    have read : reading.cursor.read = .ok (token, ⟨reading.pos + 1⟩) := by
      simp [Cursor.read, next]
    unfold take
    split
    · rename_i found
      cases found.symm.trans read
    · rename_i other cursor found
      obtain ⟨rfl, rfl⟩ := Prod.mk.inj (Except.ok.inj (found.symm.trans read))
      simp only [refused other next, blame_of_token next, skip_of_peek next]
      rfl

/-- A faithful rewind sends a reading back in front of any token. -/
theorem sendBack_moves {rewind : Rewind tokens} (faithful : rewind.Faithful)
    (reading : Reading tokens) {target : Nat} (inside : target < tokens.size) :
    ∃ placed, reading.sendBack rewind target = .moved (reading.returnTo target) placed := by
  have moved := faithful reading.cursor target inside
  refine ⟨rfl, ?_⟩
  unfold sendBack
  split
  · rename_i cursor found
    cases found.symm.trans moved
    rfl
  · rename_i error found
    cases found.symm.trans moved

end Reading

/-- A number token is appended as a number. -/
theorem number_accepts (tree : Tree) {reading : Reading tokens} {token : Token}
    (next : reading.cursor.peek = some token) (kind : token.kind = .number) :
    ∃ advanced, number tree reading =
      .accepted (tree.append [.number token.value]) reading.past advanced := by
  have chosen : token.literal? = some token.value := by simp [Token.literal?, kind]
  obtain ⟨advanced, taken⟩ := Reading.take_accepts next chosen
  exact ⟨advanced, by simp [number, taken]⟩

/-- A token of another kind is no number. It is blamed, and it has been read. -/
theorem number_refuses (tree : Tree) {reading : Reading tokens} {token : Token}
    (next : reading.cursor.peek = some token) (kind : token.kind ≠ .number) :
    number tree reading = .rejected (blame tokens reading.pos) reading.past := by
  have refused : ∀ other, reading.cursor.peek = some other → other.literal? = none := by
    intro other found
    cases next.symm.trans found
    simp [Token.literal?, kind]
  simp [number, Reading.take_refuses refused, Reading.skip_of_peek next]

/-- A token of the expected kind is taken. -/
theorem expect_accepts {kind : Token.Kind} {reading : Reading tokens} {token : Token}
    (next : reading.cursor.peek = some token) (same : token.kind = kind) :
    ∃ advanced, expect kind reading = .accepted () reading.past advanced :=
  Reading.take_accepts next (by simp [same])

/-- Anything else in its place is blamed, be it a token, which has then been read, or the
end of the list. -/
theorem expect_refuses {kind : Token.Kind} {reading : Reading tokens}
    (missing : ∀ token, reading.cursor.peek = some token → token.kind ≠ kind) :
    expect kind reading = .rejected (blame tokens reading.pos) reading.skip :=
  Reading.take_refuses fun token found => by simp [missing token found]

variable {rewind : Rewind tokens}

mutual

/-- From a reading with input left, an expression does what a run of it says.

Proof: along the recursion of the rules, together with the lemmas below. Wherever a rule
sends the cursor back it began in front of a token, so a faithful rewind gets there. -/
theorem expression_agrees (faithful : rewind.Faithful) (enclosing : List Nat) (tree : Tree)
    (reading : Reading tokens) (inside : reading.pos < tokens.size) :
    (expression rewind enclosing tree reading).Agrees tree (Run enclosing .expression reading) := by
  have lead := operand_agrees faithful (reading.pos :: enclosing) tree
    (reading.log (.expressionBegun reading.pos enclosing)) inside
  rw [expression]
  split
  · rename_i longer behind advanced found
    rw [found] at lead
    obtain ⟨forest, rfl, lead⟩ := lead
    have fewer : behind.left < reading.left := advanced
    have rest := chain_agrees faithful (reading.pos :: enclosing) (tree.append forest) behind
      reading.left advanced
    revert rest
    cases chain rewind (reading.pos :: enclosing) (tree.append forest) behind reading.left
      advanced with
    | accepted longer after advanced =>
      rintro ⟨later, rfl, rest⟩
      exact ⟨forest ++ later, Tree.append_append tree forest later, .led lead rest⟩
    | rejected error after =>
      intro impossible
      cases impossible
  · rename_i error behind found
    rw [found] at lead
    exact .leadRejected lead
termination_by 3 * reading.left + 2
decreasing_by
  · change 3 * reading.left + 1 < 3 * reading.left + 2
    omega
  · omega

/-- Wherever a chain begins, also at the end of the list, it does what a run of it says. -/
theorem chain_agrees (faithful : rewind.Faithful) (around : List Nat) (tree : Tree)
    (reading : Reading tokens) (bound : Nat) (within : reading.left < bound) :
    (chain rewind around tree reading bound within).Agrees tree (Run around .chain reading) := by
  rw [chain]
  cases next : reading.cursor.peek with
  | none =>
    have ended : reading.cursor.isExhausted = true := (Reading.isExhausted_iff reading).mpr next
    rw [if_pos ended]
    exact ⟨[], (Tree.append_nil tree).symm, .exhausted next⟩
  | some token =>
    have running : ¬ reading.cursor.isExhausted = true := by simp [Reading.isExhausted_iff, next]
    rw [if_neg running]
    have stepped := step_agrees faithful around reading next
    split
    · rename_i link behind advanced found
      rw [found] at stepped
      obtain ⟨forest, rfl, goesOn⟩ := stepped
      rw [Tree.extend_append_emptyGroup]
      have rest := chain_agrees faithful around (tree.append forest) behind bound
        (Nat.lt_trans advanced within)
      revert rest
      cases chain rewind around (tree.append forest) behind bound
        (Nat.lt_trans advanced within) with
      | accepted longer after advanced =>
        rintro ⟨later, rfl, rest⟩
        exact ⟨forest ++ later, Tree.append_append tree forest later, goesOn later after rest⟩
      | rejected error after =>
        intro impossible
        cases impossible
    · rename_i error behind found
      rw [found] at stepped
      obtain ⟨placed, moved⟩ := Reading.sendBack_moves faithful
        (behind.endChain reading.pos error) (Reading.inside_of_peek next)
      rw [moved]
      exact ⟨[], (Tree.append_nil tree).symm, stepped⟩
termination_by 3 * reading.left + 1
decreasing_by all_goals omega

/-- A step at an operator prolongs every chain behind it; a step that fails ends
the chain. -/
theorem step_agrees (faithful : rewind.Faithful) (around : List Nat) (reading : Reading tokens)
    {token : Token} (next : reading.cursor.peek = some token) :
    (step rewind around reading).Agrees Tree.emptyGroup fun
      | .ok link, behind => ∀ later after, Run around .chain behind (.ok later) after →
          Run around .chain reading (.ok (link ++ later)) after
      | .error error, behind =>
          Run around .chain reading (.ok []) (behind.endAt reading.pos error) := by
  rw [step]
  cases isSign : token.sign? with
  | none =>
    have refused : ∀ other, reading.cursor.peek = some other → other.sign? = none := by
      intro other found
      cases next.symm.trans found
      exact isSign
    rw [Reading.take_refuses refused, Reading.skip_of_peek next]
    exact .noOperator next isSign
  | some sign =>
    obtain ⟨advanced, taken⟩ := Reading.take_accepts next isSign
    rw [taken]
    dsimp only
    split
    · rename_i ended
      obtain ⟨last, atEnd⟩ := Reading.last_of_exhausted (Reading.inside_of_peek next) ended
      exact atEnd ▸ Run.operatorAtEnd next isSign last
    · rename_i running
      have link := operand_agrees faithful around (Tree.emptyGroup.push (.operator sign))
        reading.past (Reading.inside_of_running running)
      split
      · rename_i longer behind further found
        rw [found] at link
        obtain ⟨forest, rfl, link⟩ := link
        exact ⟨.operator sign :: forest, rfl, fun later after rest => .linked next isSign link rest⟩
      · rename_i error behind found
        rw [found] at link
        exact .linkRejected next isSign link
termination_by 3 * reading.left
decreasing_by omega

/-- From a reading with input left, an operand does what a run of it says. -/
theorem operand_agrees (faithful : rewind.Faithful) (around : List Nat) (tree : Tree)
    (reading : Reading tokens) (inside : reading.pos < tokens.size) :
    (operand rewind around tree reading).Agrees tree (Run around .operand reading) := by
  have next : reading.cursor.peek = some tokens[reading.pos] := Array.getElem?_eq_getElem inside
  have begun : (reading.log (.operandBegun reading.pos)).cursor.peek = some tokens[reading.pos] :=
    next
  rw [operand]
  by_cases kind : tokens[reading.pos].kind = .number
  · obtain ⟨advanced, taken⟩ := number_accepts tree begun kind
    rw [taken]
    exact ⟨_, rfl, .number next kind⟩
  · rw [number_refuses tree begun kind]
    obtain ⟨placed, moved⟩ := Reading.sendBack_moves faithful
      ((reading.log (.operandBegun reading.pos)).past.abandon .number (blame tokens reading.pos))
      inside
    dsimp only [Reading.pos_log]
    rw [moved]
    have second := parenthesized_agrees faithful around tree reading next kind
    dsimp only
    split
    · rename_i longer after further found
      rw [Reading.noNumber, found] at second
      exact second
    · rename_i error behind found
      rw [Reading.noNumber, found] at second
      obtain ⟨placed, moved⟩ := Reading.sendBack_moves faithful
        (behind.abandon .parenthesized error) inside
      rw [moved]
      exact second
termination_by 3 * reading.left + 1
decreasing_by all_goals simp only [Reading.left, Cursor.left] at *; omega

/-- Behind a token that is no number, the second alternative decides the operand. There is
a constructor of runs for each of its ways. -/
theorem parenthesized_agrees (faithful : rewind.Faithful) (around : List Nat) (tree : Tree)
    (reading : Reading tokens) {token : Token} (next : reading.cursor.peek = some token)
    (notNumber : token.kind ≠ .number) :
    (parenthesized rewind around tree reading.noNumber).Agrees tree fun
      | .ok forest, after => Run around .operand reading (.ok forest) after
      | .error error, behind =>
          Run around .operand reading (.error error) (behind.noOperand reading.pos error) := by
  have here : reading.noNumber.cursor.peek = some token := next
  rw [parenthesized]
  by_cases kind : token.kind = .openParen
  · obtain ⟨advanced, taken⟩ := expect_accepts here kind
    rw [taken]
    dsimp only
    split
    · rename_i ended
      obtain ⟨last, atEnd⟩ := Reading.last_of_exhausted (Reading.inside_of_peek here) ended
      exact atEnd ▸ Run.openAtEnd next kind last
    · rename_i running
      have fewer : reading.noNumber.past.left < reading.left :=
        Reading.left_past (Reading.inside_of_peek next)
      have inside := expression_agrees faithful around Tree.emptyGroup reading.noNumber.past
        (Reading.inside_of_running running)
      split
      · rename_i error behind found
        rw [found] at inside
        exact .insideRejected next kind inside
      · rename_i inner behind further found
        rw [found] at inside
        obtain ⟨forest, rfl, inside⟩ := inside
        by_cases closes : ∃ closing, behind.cursor.peek = some closing ∧ closing.kind = .closeParen
        · obtain ⟨closing, found, closes⟩ := closes
          obtain ⟨last, taken⟩ := expect_accepts found closes
          rw [taken]
          exact ⟨[.node .group forest], Tree.push_eq_append _ _,
            .closed next kind inside found closes⟩
        · have missing : ∀ other, behind.cursor.peek = some other → other.kind ≠ .closeParen :=
            fun other found same => closes ⟨other, found, same⟩
          rw [expect_refuses missing]
          exact .unclosed next kind inside missing
  · have refused : ∀ other, reading.noNumber.cursor.peek = some other →
        other.kind ≠ .openParen := by
      intro other found
      cases here.symm.trans found
      exact kind
    rw [expect_refuses refused, Reading.skip_of_peek here]
    exact .stray next notNumber kind
termination_by 3 * reading.left
decreasing_by omega

end

/-! ## Parses -/

/-- The parse that a run from the start of a token list comes to. -/
def conclude (answer : Except ParseError (List Tree)) (after : Reading tokens) : Parse :=
  match answer with
  | .error error => ⟨.error (after.report error), after.journal⟩
  | .ok forest =>
    match after.cursor.peek with
    | none => ⟨.ok (.node .group forest), after.journal⟩
    | some _ => ⟨.error (after.report (blame tokens after.pos)), after.journal⟩

/-- The journal of a parse is that of its run. -/
theorem journal_conclude (answer : Except ParseError (List Tree)) (after : Reading tokens) :
    (conclude answer after).journal = after.journal := by
  unfold conclude
  split
  · rfl
  · split <;> rfl

/-- A parse of a list with tokens in it is the conclusion of a run. -/
theorem parse_concludes (faithful : rewind.Faithful) (inside : 0 < tokens.size) :
    ∃ answer after, Run [] .expression (Reading.start tokens) answer after ∧
      parseWith rewind = conclude answer after := by
  have run := expression_agrees faithful [] Tree.emptyGroup (Reading.start tokens) inside
  have occupied : ¬ tokens.isEmpty = true := by
    rw [Array.isEmpty_iff_size_eq_zero]
    omega
  unfold parseWith
  rw [if_neg occupied]
  split
  · rename_i error after found
    rw [found] at run
    exact ⟨.error error, after, run, rfl⟩
  · rename_i tree after advanced found
    rw [found] at run
    obtain ⟨forest, rfl, run⟩ := run
    refine ⟨.ok forest, after, run, ?_⟩
    cases next : after.cursor.peek with
    | none => simp [conclude, next, Tree.emptyGroup, Tree.append]
    | some token => simp [conclude, next, blame_of_token next]

end Reckoner.Grammar
