import Reckoner.Proofs.Grammar.OrderedChoice
import Reckoner.Proofs.Grammar.Rejection

/-!
# Ordered choice and chains agree

A run of the rules proper tells what the rules by ordered choice do at the same
position: they come to the same answer and leave the cursor at the same token.
The tail of a chain is read as an expression of its own, but its children end up
behind those read before, so the forests are the same.

What is put aside on the way is not the same. By ordered choice an operand is read
once more whenever nothing continues it, and a chain that ends with the list puts
the end aside where the rules proper put aside nothing. The fault of the unread
tokens is located by both, though, and only the fault is reported.
-/

namespace Reckoner.Grammar

variable {tokens : Array Token}

namespace OrderedChoice

/-- Before the next alternative is tried, what the last one failed with is put aside, and
the larger position is kept. -/
theorem noted_retry {reading : Reading tokens} {furthest position : Nat}
    (noted : reading.Noted furthest) (start : Nat) (within : position ≤ tokens.size) :
    (retry start (blame tokens position) reading).Noted (max furthest position) :=
  Reading.Noted.note noted within

/-- In front of an operand that is no number, its first token is put aside. -/
theorem noted_noNumber {reading : Reading tokens} {furthest : Nat}
    (noted : reading.Noted furthest) (within : reading.pos ≤ tokens.size) :
    (noNumber reading).Noted (max furthest reading.pos) :=
  noted_retry noted.past reading.pos within

/-- An outcome that agrees with a run: the answer and the cursor are those of the
run, and the fault is located with what was put aside. -/
def Matches {bound : Nat} (rule : Rule) (tree : Tree) (reading : Reading tokens)
    (answer : Except ParseError (List Tree)) (stop : Cursor tokens)
    (outcome : Outcome tokens bound Tree) : Prop :=
  ∃ after, outcome.final = (answer.map tree.append, after) ∧ after.cursor = stop ∧
    ∀ furthest, reading.Noted furthest → ∃ position ≤ tokens.size,
      after.Noted (max furthest position) ∧ Locates rule reading answer after position

/-- A continuation that fails where a chain ends. The cursor is left anywhere, and
the failure itself has not been put aside yet. -/
def Fails {bound : Nat} (reading : Reading tokens) (outcome : Outcome tokens bound Tree) : Prop :=
  ∃ error behind, outcome.final = (.error error, behind) ∧
    ∀ furthest, reading.Noted furthest → ∃ last position, last ≤ tokens.size ∧
      position ≤ tokens.size ∧ error = blame tokens last ∧
      behind.Noted (max furthest position) ∧ reading.Stuck (max position last)

/-- What a rule by ordered choice does from a cursor where the rule proper comes to
`answer` at `stop`. The part of a chain is played by what continues an operand:
it fails if the chain is empty. -/
def Follows (rule : Rule) (start : Cursor tokens) (answer : Except ParseError (List Tree))
    (stop : Cursor tokens) : Prop :=
  ∀ (tree : Tree) (reading : Reading tokens), reading.cursor = start →
    match rule, answer with
    | .operand, _ => Matches .operand tree reading answer stop (operand tree reading)
    | .expression, _ => Matches .expression tree reading answer stop (expression tree reading)
    | .chain, .ok [] => stop = start ∧ Fails reading (continuation tree reading)
    | .chain, _ => Matches .chain tree reading answer stop (continuation tree reading)

namespace Follows

variable {start middle stop : Cursor tokens} {token : Token} {sign : Sign} {error : ParseError}
variable {forest later : List Tree}

/-- Behind an opening parenthesis, with the alternative of a number put aside, the
expression inside is read like any other. -/
theorem enter {reading : Reading tokens} {answer : Except ParseError (List Tree)}
    (inside : Follows .expression (⟨reading.pos + 1⟩ : Cursor tokens) answer stop)
    (within : reading.pos ≤ tokens.size) :
    ∃ behind, (expression Tree.emptyGroup (noNumber reading).past).final =
        (answer.map Tree.emptyGroup.append, behind) ∧ behind.cursor = stop ∧
      ∀ furthest, reading.Noted furthest → ∃ position ≤ tokens.size,
        behind.Noted (max (max furthest reading.pos) position) ∧
          Locates .expression reading.past answer behind position := by
  obtain ⟨behind, final, stops, locates⟩ := inside Tree.emptyGroup (noNumber reading).past rfl
  refine ⟨behind, final, stops, ?_⟩
  intro furthest noted
  exact locates _ (noted_noNumber noted within).past

/-! One lemma for each way of a run, with what the parts of the run say. -/

/-- A number is an operand by the first alternative, and nothing is put aside. -/
theorem number (next : start.peek = some token) (kind : token.kind = .number) :
    Follows .operand start (.ok [.number token.value]) ⟨start.pos + 1⟩ := by
  rintro tree reading rfl
  refine ⟨reading.past, operand_of_number tree next kind, rfl, ?_⟩
  intro furthest noted
  exact ⟨0, Nat.zero_le _, noted.past.of_eq (by omega), Nat.succ_pos _,
    fun opened => Reading.fault_of_number next kind opened⟩

/-- A token that starts no operand is refused by both alternatives, and both blame it. -/
theorem stray (next : start.peek = some token) (notNumber : token.kind ≠ .number)
    (notOpen : token.kind ≠ .openParen) :
    Follows .operand start (.error (blame tokens start.pos)) start := by
  rintro tree reading rfl
  have within : reading.pos ≤ tokens.size := Nat.le_of_lt (Reading.inside_of_peek next)
  have here : (noNumber reading).cursor.peek = some token := next
  refine ⟨_, operand_neither next notNumber (parenthesized_of_stray tree here notOpen), rfl, ?_⟩
  intro furthest noted
  have aside := noted_retry (noted_noNumber noted within).past reading.pos within
  exact ⟨reading.pos, within, aside.of_eq (by omega), .stray next notNumber notOpen⟩

/-- Behind an opening parenthesis at the end of the list, the end is blamed. It reaches
further than the parenthesis, which was put aside for the number. -/
theorem openAtEnd (next : start.peek = some token) (kind : token.kind = .openParen)
    (last : tokens.size = start.pos + 1) :
    Follows .operand start (.error (blame tokens (start.pos + 1))) start := by
  rintro tree reading rfl
  have within : reading.pos ≤ tokens.size := Nat.le_of_lt (Reading.inside_of_peek next)
  have stop : reading.pos + 1 ≤ tokens.size := Nat.le_of_eq last.symm
  have here : (noNumber reading).cursor.peek = some token := next
  have notNumber : token.kind ≠ .number := by simp [kind]
  refine ⟨_, operand_neither next notNumber (parenthesized_atEnd tree here kind last), rfl, ?_⟩
  intro furthest noted
  have aside := noted_retry (noted_noNumber noted within).past reading.pos stop
  exact ⟨reading.pos + 1, stop, aside.of_eq (by omega), .openAtEnd next kind last⟩

/-- What fails inside parentheses fails the operand. -/
theorem insideRejected (next : start.peek = some token) (kind : token.kind = .openParen)
    (more : start.pos + 1 < tokens.size)
    (inside : Follows .expression ⟨start.pos + 1⟩ (.error error) stop) :
    Follows .operand start (.error error) start := by
  rintro tree reading rfl
  have within : reading.pos ≤ tokens.size := Nat.le_of_lt (Reading.inside_of_peek next)
  have here : (noNumber reading).cursor.peek = some token := next
  have notNumber : token.kind ≠ .number := by simp [kind]
  obtain ⟨behind, inner, _, innerLocates⟩ := inside.enter within
  have failed := parenthesized_rejected tree here kind more inner
  refine ⟨_, operand_neither next notNumber failed, rfl, ?_⟩
  intro furthest noted
  obtain ⟨position, bound, aside, located⟩ := innerLocates furthest noted
  obtain ⟨before, ⟨last, lastBefore, rfl⟩, _⟩ := id located
  rw [Reading.pos_past] at before
  have last := noted_retry aside reading.pos (Nat.le_trans lastBefore bound)
  exact ⟨position, bound, last.of_eq (by omega), located.insideRejected next kind⟩

/-- The operand fails where the closing parenthesis is missing. What was put aside inside
may reach further than that. -/
theorem unclosed (next : start.peek = some token) (kind : token.kind = .openParen)
    (more : start.pos + 1 < tokens.size)
    (inside : Follows .expression ⟨start.pos + 1⟩ (.ok forest) stop)
    (missing : ∀ other, stop.peek = some other → other.kind ≠ .closeParen)
    (forward : start.pos < stop.pos) (stopWithin : stop.pos ≤ tokens.size) :
    Follows .operand start (.error (blame tokens stop.pos)) start := by
  rintro tree reading rfl
  have within : reading.pos ≤ tokens.size := Nat.le_of_lt (Reading.inside_of_peek next)
  have here : (noNumber reading).cursor.peek = some token := next
  have notNumber : token.kind ≠ .number := by simp [kind]
  obtain ⟨behind, inner, rfl, innerLocates⟩ := inside.enter within
  have failed := parenthesized_unclosed tree here kind more inner missing
  refine ⟨_, operand_neither next notNumber failed, rfl, ?_⟩
  intro furthest noted
  obtain ⟨position, bound, aside, located⟩ := innerLocates furthest noted
  have stopWithin : behind.pos ≤ tokens.size := stopWithin
  have forward : reading.pos < behind.pos := forward
  have last := noted_retry aside.skip reading.pos stopWithin
  exact ⟨max behind.pos position, by omega, last.of_eq (by omega),
    located.unclosed next kind missing forward⟩

/-- Parentheses with an expression between them are an operand that ends behind the closing
one. -/
theorem closed {closing : Token} (next : start.peek = some token)
    (kind : token.kind = .openParen) (more : start.pos + 1 < tokens.size)
    (inside : Follows .expression ⟨start.pos + 1⟩ (.ok forest) stop)
    (found : stop.peek = some closing) (closes : closing.kind = .closeParen)
    (forward : start.pos < stop.pos) :
    Follows .operand start (.ok [.node .group forest]) ⟨stop.pos + 1⟩ := by
  rintro tree reading rfl
  have within : reading.pos ≤ tokens.size := Nat.le_of_lt (Reading.inside_of_peek next)
  have here : (noNumber reading).cursor.peek = some token := next
  have notNumber : token.kind ≠ .number := by simp [kind]
  obtain ⟨behind, inner, rfl, innerLocates⟩ := inside.enter within
  have accepted := parenthesized_closed tree here kind more inner found closes
  refine ⟨behind.past, ?_, rfl, ?_⟩
  · rw [operand_second next notNumber accepted, Tree.push_eq_append]
    rfl
  intro furthest noted
  obtain ⟨position, bound, aside, located⟩ := innerLocates furthest noted
  exact ⟨max reading.pos position, by omega, aside.past.of_eq (by omega),
    located.closed next kind found closes forward⟩

/-- An expression fails with its operand, which is read twice. -/
theorem leadRejected (inside : start.pos < tokens.size)
    (lead : Follows .operand start (.error error) start) :
    Follows .expression start (.error error) start := by
  rintro tree reading rfl
  obtain ⟨behind, first, _, firstLocates⟩ := lead tree reading rfl
  obtain ⟨last, second, _, secondLocates⟩ := lead tree (retry reading.pos error behind) rfl
  refine ⟨_, expression_neither inside first second, rfl, ?_⟩
  intro furthest noted
  obtain ⟨position, bound, aside, start, ⟨blamed, before, rfl⟩, located⟩ :=
    firstLocates furthest noted
  have blamedWithin : blamed ≤ tokens.size := Nat.le_trans before bound
  obtain ⟨other, otherBound, otherAside, _, _, otherLocated⟩ :=
    secondLocates _ (noted_retry aside reading.pos blamedWithin)
  -- The second reading of the operand locates the fault that the first one located.
  have found : some (blame tokens position) = some (blame tokens other) :=
    (located 0).symm.trans (otherLocated 0)
  obtain rfl := blame_injective bound otherBound (Option.some.inj found)
  have last := noted_retry otherAside reading.pos blamedWithin
  exact ⟨position, bound, last.of_eq (by omega), start, ⟨blamed, before, rfl⟩, located⟩

/-- An expression is its first operand and the chain behind it. If nothing continues
the chain, the first alternative fails behind the operand, and the second reads
the operand again; otherwise the rest of the chain is the tail. -/
theorem led (inside : start.pos < tokens.size) (forward : middle.pos ≤ stop.pos)
    (lead : Follows .operand start (.ok forest) middle)
    (rest : Follows .chain middle (.ok later) stop) :
    Follows .expression start (.ok (forest ++ later)) stop := by
  rintro tree reading rfl
  obtain ⟨behind, first, rfl, firstLocates⟩ := lead tree reading rfl
  have further := rest (tree.append forest) behind rfl
  match later with
  | [] =>
    obtain ⟨rfl, error, stuck, fails, failsLocates⟩ := further
    obtain ⟨last, second, atStop, secondLocates⟩ := lead tree (retry reading.pos error stuck) rfl
    rw [List.append_nil]
    refine ⟨last, expression_second inside first fails second, atStop, ?_⟩
    intro furthest noted
    obtain ⟨firstPosition, firstBound, firstAside, firstBefore, _⟩ := firstLocates furthest noted
    obtain ⟨blamed, position, blamedWithin, bound, rfl, aside, stuckHere⟩ :=
      failsLocates _ firstAside
    obtain ⟨secondPosition, secondBound, secondAside, secondBefore, located⟩ :=
      secondLocates _ (noted_retry aside reading.pos blamedWithin)
    -- The continuation failed where the operand ends, so what it put aside still counts
    -- when the operand has been read again.
    have here : last.Stuck (max position blamed) := stuckHere.of_cursor atStop.symm
    have same : last.pos = behind.pos := congrArg Cursor.pos atStop
    exact ⟨max (max firstPosition secondPosition) (max position blamed), by omega,
      secondAside.of_eq (by omega), here.max (by omega), located⟩
  | next :: others =>
    obtain ⟨after, accepted, rfl, restLocates⟩ := further
    refine ⟨after, ?_, rfl, ?_⟩
    · rw [expression_first first accepted, Except.map, Tree.append_append]
    intro furthest noted
    obtain ⟨firstPosition, firstBound, firstAside, firstLocated⟩ := firstLocates furthest noted
    obtain ⟨position, bound, aside, located⟩ := restLocates _ firstAside
    exact ⟨max firstPosition position, by omega, aside.of_eq (by omega),
      firstLocated.led located forward⟩

/-- At the end of the list nothing continues an operand. The failure blames the end, where
the rules proper put aside nothing. -/
theorem exhausted (within : start.pos ≤ tokens.size) (ended : start.peek = none) :
    Follows .chain start (.ok []) start := by
  rintro tree reading rfl
  refine ⟨rfl, _, reading, continuation_atEnd tree ended, ?_⟩
  intro furthest noted
  have atEnd : tokens.size ≤ reading.pos := Array.getElem?_eq_none_iff.mp ended
  refine ⟨reading.pos, 0, within, Nat.zero_le _, (blame_of_end ended).symm,
    noted.of_eq (by omega), ?_⟩
  simp [Reading.Stuck, ended]

/-- In front of a token that is no operator, nothing continues an operand, and that token
is blamed. -/
theorem noOperator (next : start.peek = some token) (notSign : token.sign? = none) :
    Follows .chain start (.ok []) start := by
  rintro tree reading rfl
  have within : reading.pos ≤ tokens.size := Nat.le_of_lt (Reading.inside_of_peek next)
  refine ⟨rfl, _, reading.past, continuation_of_noOperator tree next notSign, ?_⟩
  intro furthest noted
  refine ⟨reading.pos, 0, within, Nat.zero_le _, rfl, noted.past.of_eq (by omega), ?_⟩
  rw [Nat.zero_max]
  exact Reading.stuck_of_noOperator next notSign

/-- An operator at the end of the list continues nothing, and the end is blamed. -/
theorem operatorAtEnd (next : start.peek = some token) (isSign : token.sign? = some sign)
    (last : tokens.size = start.pos + 1) : Follows .chain start (.ok []) start := by
  rintro tree reading rfl
  refine ⟨rfl, _, reading.past, continuation_operatorAtEnd tree next isSign last, ?_⟩
  intro furthest noted
  refine ⟨reading.pos + 1, 0, Nat.le_of_eq last.symm, Nat.zero_le _, rfl,
    noted.past.of_eq (by omega), ?_⟩
  rw [Nat.zero_max]
  exact Reading.stuck_of_operatorAtEnd next isSign last

/-- An operator continues nothing if no operand stands behind it, since the expression that
would be its tail fails with that operand. -/
theorem linkRejected (next : start.peek = some token) (isSign : token.sign? = some sign)
    (more : start.pos + 1 < tokens.size)
    (link : Follows .operand (⟨start.pos + 1⟩ : Cursor tokens) (.error error) ⟨start.pos + 1⟩) :
    Follows .chain start (.ok []) start := by
  rintro tree reading rfl
  obtain ⟨behind, tail, _, tailLocates⟩ := leadRejected more link Tree.emptyGroup reading.past rfl
  refine ⟨rfl, error, behind, continuation_rejected tree next isSign more tail, ?_⟩
  intro furthest noted
  obtain ⟨position, bound, aside, start, ⟨last, before, rfl⟩, located⟩ :=
    tailLocates furthest noted.past
  refine ⟨last, position, Nat.le_trans before bound, bound, rfl, aside, ?_⟩
  rw [Nat.max_eq_left before]
  exact Reading.stuck_of_operator next isSign (Nat.le_of_succ_le start) located

/-- What continues an operand is an operator and an expression of its own, which is
made of the next operand and the rest of the chain. -/
theorem linked (next : start.peek = some token) (isSign : token.sign? = some sign)
    (more : start.pos + 1 < tokens.size) (forward : middle.pos ≤ stop.pos)
    (link : Follows .operand ⟨start.pos + 1⟩ (.ok forest) middle)
    (rest : Follows .chain middle (.ok later) stop) :
    Follows .chain start (.ok (.operator sign :: forest ++ later)) stop := by
  rintro tree reading rfl
  obtain ⟨after, tail, atStop, tailLocates⟩ :=
    led more forward link rest Tree.emptyGroup reading.past rfl
  refine ⟨after, continuation_accepted tree next isSign more tail, atStop, ?_⟩
  intro furthest noted
  obtain ⟨position, bound, aside, stuck, same⟩ := tailLocates furthest noted.past
  refine ⟨position, bound, aside, stuck, ?_⟩
  intro opened
  rw [← same opened]
  exact Reading.fault_of_sign next isSign opened

end Follows

/-- The rules by ordered choice follow the runs of the rules proper.

Proof: induction on the run. -/
theorem follows_of_run {around : List Nat} {rule : Rule} {reading after : Reading tokens}
    {answer : Except ParseError (List Tree)} (run : Run around rule reading answer after)
    (within : reading.pos ≤ tokens.size) :
    Follows rule reading.cursor answer after.cursor := by
  induction run with
  | number next kind => exact .number next kind
  | stray next notNumber notOpen => exact .stray next notNumber notOpen
  | openAtEnd next kind last => exact .openAtEnd next kind last
  | insideRejected next kind inside inductionHypothesis =>
    have more := inside.begins_inside (by decide)
    exact .insideRejected next kind more (inductionHypothesis (Nat.le_of_lt more))
  | unclosed next kind inside missing inductionHypothesis =>
    have more := inside.begins_inside (by decide)
    obtain ⟨behindWithin, forward⟩ := inside.moves (Nat.le_of_lt more)
    exact .unclosed next kind more (inductionHypothesis (Nat.le_of_lt more)) missing
      (Nat.lt_of_succ_lt forward) behindWithin
  | closed next kind inside found closes inductionHypothesis =>
    have more := inside.begins_inside (by decide)
    obtain ⟨_, forward⟩ := inside.moves (Nat.le_of_lt more)
    exact .closed next kind more (inductionHypothesis (Nat.le_of_lt more)) found closes
      (Nat.lt_of_succ_lt forward)
  | exhausted ended => exact .exhausted within ended
  | noOperator next notSign => exact .noOperator next notSign
  | operatorAtEnd next isSign last => exact .operatorAtEnd next isSign last
  | @linkRejected _ reading behind token sign error next isSign link inductionHypothesis =>
    have more := link.begins_inside (by decide)
    obtain ⟨_, home⟩ := link.moves (Nat.le_of_lt more)
    have home : behind.cursor = reading.past.cursor := congrArg Cursor.mk home
    rw [home] at inductionHypothesis
    exact .linkRejected next isSign more (inductionHypothesis (Nat.le_of_lt more))
  | linked next isSign link rest linkHypothesis restHypothesis =>
    have more := link.begins_inside (by decide)
    obtain ⟨behindWithin, _⟩ := link.moves (Nat.le_of_lt more)
    obtain ⟨_, forward⟩ := rest.moves behindWithin
    exact .linked next isSign more forward (linkHypothesis (Nat.le_of_lt more))
      (restHypothesis behindWithin)
  | @leadRejected enclosing reading behind error lead inductionHypothesis =>
    have inside := lead.begins_inside (by decide)
    obtain ⟨_, home⟩ := lead.moves within
    have home : behind.cursor = reading.cursor := congrArg Cursor.mk home
    rw [home] at inductionHypothesis ⊢
    exact .leadRejected inside (inductionHypothesis within)
  | led lead rest leadHypothesis restHypothesis =>
    have inside := lead.begins_inside (by decide)
    obtain ⟨behindWithin, _⟩ := lead.moves within
    obtain ⟨_, forward⟩ := rest.moves behindWithin
    exact .led inside forward (leadHypothesis within) (restHypothesis behindWithin)

/-! ## Parses -/

/-- A parse by ordered choice is concluded from the answer of the run. -/
theorem parse_of_final {answer : Except ParseError (List Tree)} {after : Reading tokens}
    (occupied : ¬ tokens.isEmpty = true)
    (final : (expression Tree.emptyGroup (Reading.start tokens)).final =
      (answer.map Tree.emptyGroup.append, after)) :
    parse tokens = (conclude answer after).result := by
  rw [parse, if_neg occupied]
  match answer with
  | .error error => rw [Outcome.eq_rejected final, conclude]
  | .ok forest =>
    obtain ⟨advanced, accepted⟩ := Outcome.exists_accepted final
    rw [accepted, conclude]
    cases next : after.cursor.peek with
    | none => simp [next, Tree.emptyGroup, Tree.append]
    | some token => simp [next, blame_of_token next]

/-- A parse by ordered choice comes to what the parse proper comes to. Both accept the
lists without a fault, with the same forest, and report the fault of the others.

Proof: the run of the parse proper tells the answer of the other parse, and locates the
fault of the list with what that one has put aside. So the fault decides both results, and
the forest is that of the run. -/
theorem parse_eq_ofTokens (list : List Token) : parse list.toArray = Tree.ofTokens list := by
  by_cases occupied : list = []
  · subst list
    rfl
  have filled : ¬ list.toArray.isEmpty = true := by simpa using occupied
  obtain ⟨answer, after, run, concluded⟩ := ofTokens_concludes occupied
  obtain ⟨last, final, sameCursor, locates⟩ :=
    follows_of_run run (Nat.zero_le _) Tree.emptyGroup (Reading.start list.toArray) rfl
  obtain ⟨position, bound, aside, located⟩ := locates 0 Reading.noted_start
  obtain ⟨afterWithin, _⟩ := run.moves (Nat.zero_le _)
  rw [Nat.zero_max] at aside
  have lastWithin : last.pos ≤ list.toArray.size := by
    rw [Reading.pos, sameCursor]
    exact afterWithin
  have choice := located.conclude aside bound lastWithin
  have proper := ofTokens_fault list
  rw [parse_of_final filled final]
  cases parsed : (conclude answer last).result with
  | ok tree =>
    rw [parsed] at choice
    cases accepted : Tree.ofTokens list with
    | ok other =>
      obtain ⟨forest, rfl, rfl, _⟩ := conclude_eq_ok parsed
      obtain ⟨_, same, rfl, _⟩ := conclude_eq_ok (concluded ▸ accepted)
      cases same
      rfl
    | error error =>
      rw [accepted] at proper
      cases choice.symm.trans proper
  | error error =>
    rw [parsed] at choice
    cases rejected : Tree.ofTokens list with
    | ok tree =>
      rw [rejected] at proper
      cases choice.symm.trans proper
    | error other =>
      rw [rejected] at proper
      cases choice.symm.trans proper
      rfl

/-- From every position with input left, the two expression rules come to the same
answer and leave the cursor at the same position, whatever was put aside before. -/
theorem expression_alike (enclosing : List Nat) (tree : Tree) {reading other : Reading tokens}
    (inside : reading.pos < tokens.size) (same : other.cursor = reading.cursor) :
    ∃ result last after, (expression tree other).final = (result, last) ∧
      (Grammar.expression Rewind.checked enclosing tree reading).final = (result, after) ∧
      last.pos = after.pos := by
  obtain ⟨answer, after, run, final⟩ :=
    (expression_agrees Rewind.checked_faithful enclosing tree reading inside).exists_run
  obtain ⟨last, other, atStop, _⟩ := follows_of_run run (Nat.le_of_lt inside) tree other same
  exact ⟨_, last, after, other, final, congrArg Cursor.pos atStop⟩

/-- The parse by ordered choice and the parse proper come to the same result for every
token list: to the same tree, or to the same rejection. From every position with
input left, the two expression rules accept or fail alike, with the same tree or
rejection, and leave the cursor at the same position. -/
theorem alternatives_agree_with_chains :
    (∀ list : List Token, parse list.toArray = Tree.ofTokens list) ∧
    (∀ (tokens : Array Token) (reading other : Reading tokens) (enclosing : List Nat)
      (tree : Tree), reading.pos < tokens.size → other.cursor = reading.cursor →
      ∃ result last after, (expression tree other).final = (result, last) ∧
        (Grammar.expression Rewind.checked enclosing tree reading).final = (result, after) ∧
        last.pos = after.pos) := by
  constructor
  · exact parse_eq_ofTokens
  · intro tokens reading other enclosing tree inside same
    exact expression_alike enclosing tree inside same

/-- An operator without an operand is given back by both rules, also if the end of the
list was put aside before, and both parses report what stands behind it. -/
theorem lone_operator_given_back :
    parse #[.number "1", .operator .add, .closeParen] =
        .error (.unexpectedToken .closeParen 2) ∧
      ∃ result last after,
        (expression Tree.emptyGroup
          ((Reading.start #[.number "1", .operator .add, .closeParen]).note
            .unexpectedEndOfInput)).final = (result, last) ∧
        (Grammar.expression Rewind.checked [] Tree.emptyGroup
          (Reading.start #[.number "1", .operator .add, .closeParen])).final = (result, after) ∧
        last.pos = after.pos := by
  constructor
  · have rejected : Tree.ofTokens [.number "1", .operator .add, .closeParen] =
        .error (.unexpectedToken .closeParen 2) := (rejected_iff_fault _ _).mpr (by decide)
    exact (alternatives_agree_with_chains.1 _).trans rejected
  · exact alternatives_agree_with_chains.2 _ _ _ _ _ (by decide) (Reading.cursor_note _ _)

end OrderedChoice

end Reckoner.Grammar
