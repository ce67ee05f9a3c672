import Reckoner.Proofs.Grammar.Journal
import Reckoner.Proofs.Tree.Flattening

/-!
# How deep expressions nest

An expression that is read inside another one stands in parentheses, and nothing else
makes the calls of the rules nest. So where an expression begins, the expressions that
are still being read are as many as there are open parentheses, and one more. The tokens
in front of that position alone decide on it: not how long the chains are, and not how
often a cursor was sent back on the way there.

The link between calls and tokens is kept by runs. What a rule has read when it is
accepted has as many opening as closing parentheses in it, and a chain or an alternative
that is given up leaves the cursor where the rule began.
-/

namespace Reckoner.Grammar

variable {tokens : Array Token}

/-- How many tokens of a kind stand in front of a position. -/
def countBefore (tokens : Array Token) (kind : Token.Kind) (position : Nat) : Nat :=
  (tokens.toList.take position).countP fun token => token.kind = kind

/-- A token counts in front of the position behind it. -/
theorem countBefore_succ {position : Nat} {token : Token}
    (found : tokens[position]? = some token) (kind : Token.Kind) :
    countBefore tokens kind (position + 1) =
      countBefore tokens kind position + if token.kind = kind then 1 else 0 := by
  have listed : tokens.toList[position]? = some token := by rwa [Array.getElem?_toList]
  rw [countBefore, List.take_add_one, listed, List.countP_append, countBefore]
  simp [List.countP_cons]

/-- In front of a position there are no more tokens of a kind than in the whole list. -/
theorem countBefore_le (tokens : Array Token) (kind : Token.Kind) (position : Nat) :
    countBefore tokens kind position ≤ countBefore tokens kind tokens.size := by
  have whole : tokens.toList.take tokens.size = tokens.toList :=
    List.take_of_length_le (Nat.le_of_eq Array.length_toList)
  rw [countBefore, countBefore, whole]
  exact (List.take_sublist position tokens.toList).countP_le

/-- Expressions that were begun at the given positions, the innermost first, are being read
at a position: each began behind the one around it, and their number is one more than that
of the parentheses open in front of the position. -/
structure Nested (tokens : Array Token) (active : List Nat) (position : Nat) : Prop where
  ordered : active.Pairwise (· > ·)
  behind : ∀ start ∈ active, start ≤ position
  level : countBefore tokens .openParen position + 1 =
    countBefore tokens .closeParen position + active.length

namespace Nested

variable {active : List Nat} {position : Nat} {token : Token}

/-- A parse begins with one expression and no open parenthesis. -/
theorem start (tokens : Array Token) : Nested tokens [0] 0 where
  ordered := List.pairwise_singleton _ _
  behind := List.forall_mem_singleton.mpr (Nat.le_refl 0)
  level := rfl

/-- Reading a token that is no parenthesis changes nothing. -/
theorem pass (nested : Nested tokens active position) (found : tokens[position]? = some token)
    (notOpen : token.kind ≠ .openParen) (notClose : token.kind ≠ .closeParen) :
    Nested tokens active (position + 1) where
  ordered := nested.ordered
  behind start member := Nat.le_succ_of_le (nested.behind start member)
  level := by
    rw [countBefore_succ found, countBefore_succ found, if_neg notOpen, if_neg notClose]
    exact nested.level

/-- Reading an operator changes nothing, for it is no parenthesis. -/
theorem passSign {sign : Sign} (nested : Nested tokens active position)
    (found : tokens[position]? = some token) (isSign : token.sign? = some sign) :
    Nested tokens active (position + 1) := by
  have kind : token.kind = .operator sign := congrArg Prod.fst (Token.essence_of_sign isSign)
  exact nested.pass found (by simp [kind]) (by simp [kind])

/-- Behind an opening parenthesis one more expression begins. -/
theorem enter (nested : Nested tokens active position) (found : tokens[position]? = some token)
    (opens : token.kind = .openParen) :
    Nested tokens ((position + 1) :: active) (position + 1) where
  ordered := List.pairwise_cons.mpr
    ⟨fun start member => Nat.lt_succ_of_le (nested.behind start member), nested.ordered⟩
  behind := List.forall_mem_cons.mpr ⟨Nat.le_refl _, fun start member =>
    Nat.le_succ_of_le (nested.behind start member)⟩
  level := by
    have notClose : token.kind ≠ .closeParen := by simp [opens]
    have level := nested.level
    rw [countBefore_succ found, countBefore_succ found, if_pos opens, if_neg notClose,
      List.length_cons]
    omega

/-- Behind a closing parenthesis the innermost expression has ended. -/
theorem leave {begun : Nat} (nested : Nested tokens (begun :: active) position)
    (found : tokens[position]? = some token) (closes : token.kind = .closeParen) :
    Nested tokens active (position + 1) where
  ordered := (List.pairwise_cons.mp nested.ordered).2
  behind start member := Nat.le_succ_of_le (nested.behind start (List.mem_cons_of_mem _ member))
  level := by
    have notOpen : token.kind ≠ .openParen := by simp [closes]
    have level := nested.level
    rw [List.length_cons] at level
    rw [countBefore_succ found, countBefore_succ found, if_pos closes, if_neg notOpen]
    omega

end Nested

/-- The expressions that are being read while a rule is: an expression is one of them. -/
def Rule.active (begun : Nat) (around : List Nat) : Rule → List Nat
  | .expression => begun :: around
  | .operand | .chain => around

/-- An expression begins nested in the ones around it. -/
def Event.IsNested (tokens : Array Token) : Event → Prop
  | .expressionBegun position enclosing => Nested tokens (position :: enclosing) position
  | .operandBegun _ | .alternativeFailed _ _ _ | .chainEnded _ _ | .sentBack _ _ => True

/-- A run begins its expressions nested, and is as deep where it is accepted as where it
began.

Proof: induction on the run. Parentheses are entered and left by the operand that they
are, an operator and a number are passed, and a chain that ends is back where it was. -/
theorem Run.nests {around : List Nat} {rule : Rule} {reading after : Reading tokens}
    {answer : Except ParseError (List Tree)} (run : Run around rule reading answer after)
    (nested : Nested tokens (rule.active reading.pos around) reading.pos)
    (told : reading.Told (Event.IsNested tokens)) :
    after.Told (Event.IsNested tokens) ∧
      ∀ forest, answer = .ok forest → Nested tokens (rule.active reading.pos around) after.pos := by
  induction run with
  | number next kind =>
    refine ⟨by simpa [Event.IsNested] using told, fun _ _ => ?_⟩
    exact nested.pass next (by simp [kind]) (by simp [kind])
  | stray _ _ _ | openAtEnd _ _ _ => exact ⟨by simpa [Event.IsNested] using told, nofun⟩
  | insideRejected next kind _ inductionHypothesis | unclosed next kind _ _ inductionHypothesis =>
    have tried := inductionHypothesis (nested.enter next kind)
      (by simpa [Event.IsNested] using told)
    exact ⟨by simpa [Event.IsNested] using tried.1, nofun⟩
  | closed next kind _ found closes inductionHypothesis =>
    obtain ⟨inner, deep⟩ := inductionHypothesis (nested.enter next kind)
      (by simpa [Event.IsNested] using told)
    exact ⟨inner, fun _ _ => (deep _ rfl).leave found closes⟩
  | exhausted _ => exact ⟨told, fun _ _ => nested⟩
  | noOperator _ _ | operatorAtEnd _ _ _ =>
    exact ⟨by simpa [Event.IsNested] using told, fun _ _ => nested⟩
  | linkRejected next isSign _ inductionHypothesis =>
    have tried := inductionHypothesis (nested.passSign next isSign) told
    exact ⟨by simpa [Event.IsNested] using tried.1, fun _ _ => nested⟩
  | linked next isSign _ _ linkHypothesis restHypothesis =>
    obtain ⟨link, deep⟩ := linkHypothesis (nested.passSign next isSign) told
    obtain ⟨rest, deeper⟩ := restHypothesis (deep _ rfl) link
    exact ⟨rest, fun _ _ => deeper _ rfl⟩
  | leadRejected _ inductionHypothesis =>
    obtain ⟨inner, _⟩ := inductionHypothesis nested (by simpa [Event.IsNested] using ⟨told, nested⟩)
    exact ⟨inner, nofun⟩
  | led _ _ leadHypothesis restHypothesis =>
    obtain ⟨lead, deep⟩ := leadHypothesis nested (by simpa [Event.IsNested] using ⟨told, nested⟩)
    obtain ⟨rest, deeper⟩ := restHypothesis (deep _ rfl) lead
    exact ⟨rest, fun _ _ => deeper _ rfl⟩

/-- The calls of expressions nest as the parentheses do. When an expression is begun at a
position, no more parentheses have been closed in front of it than opened, and the
expressions being read, this one included, are one more than those that are open. Each of
them began behind the one around it. So there are never more of them than there are opening
parentheses in the whole list, and one, however long its chains are.

The rules end, whatever the list: where input is left, an expression and an operand come to
what a run of them says, and a chain does so anywhere. A run is finite. -/
theorem depth_follows_parentheses (tokens : Array Token) :
    (∀ (position : Nat) (enclosing : List Nat),
      .expressionBegun position enclosing ∈ (parse tokens).journal →
      countBefore tokens .closeParen position ≤ countBefore tokens .openParen position ∧
      (position :: enclosing).length = 1 + countBefore tokens .openParen position -
        countBefore tokens .closeParen position ∧
      (position :: enclosing).Pairwise (· > ·) ∧
      (position :: enclosing).length ≤ 1 + countBefore tokens .openParen tokens.size) ∧
    (∀ (around : List Nat) (tree : Tree) (reading : Reading tokens), reading.pos < tokens.size →
      (∃ answer after, Run around .expression reading answer after ∧
        (expression Rewind.checked around tree reading).final = (answer.map tree.append, after)) ∧
      ∃ answer after, Run around .operand reading answer after ∧
        (operand Rewind.checked around tree reading).final = (answer.map tree.append, after)) ∧
    ∀ (around : List Nat) (tree : Tree) (reading : Reading tokens) (bound : Nat)
      (within : reading.left < bound), ∃ answer after, Run around .chain reading answer after ∧
        (chain Rewind.checked around tree reading bound within).final =
          (answer.map tree.append, after) := by
  have faithful : (Rewind.checked : Rewind tokens).Faithful := Rewind.checked_faithful
  have told : ∀ event ∈ (parse tokens).journal, event.IsNested tokens :=
    parse_told fun run => (run.nests (Nested.start tokens) Reading.told_start).1
  refine ⟨?_, ?_, ?_⟩
  · intro position enclosing begun
    have nested : Nested tokens (position :: enclosing) position := told _ begun
    have level := nested.level
    have within := countBefore_le tokens .openParen position
    rw [List.length_cons] at level ⊢
    exact ⟨by omega, by omega, nested.ordered, by omega⟩
  · intro around tree reading inside
    exact ⟨(expression_agrees faithful around tree reading inside).exists_run,
      (operand_agrees faithful around tree reading inside).exists_run⟩
  · intro around tree reading bound within
    exact (chain_agrees faithful around tree reading bound within).exists_run

/-- The third expression of a list that is rejected: it begins behind the second of two
parentheses that are never closed, and a pair that is closed in front of them counts for
nothing. -/
theorem third_expression_begun :
    .expressionBegun 6 [1, 0] ∈ (parse #[.openParen, .openParen, .number "1", .closeParen,
      .operator .add, .openParen, .number "2", .operator .add]).journal ∧
    [6, 1, 0].length = 1 + 3 - 1 ∧ [6, 1, 0].Pairwise (· > ·) := by
  have begun : .expressionBegun 6 [1, 0] ∈ (parse #[.openParen, .openParen, .number "1",
      .closeParen, .operator .add, .openParen, .number "2", .operator .add]).journal := by
    decide +kernel
  obtain ⟨_, level, ordered, _⟩ := (depth_follows_parentheses _).1 6 [1, 0] begun
  exact ⟨begun, level, ordered⟩

end Reckoner.Grammar
