import Reckoner.Proofs.Grammar.Language

/-!
# What may come next

One pass over a token list decides whether it is an expression, without a tree
and without going back: all that has to be known of the tokens so far is whether
an operand or an operator is due and how many parentheses are open. The first
token that is not expected is the fault of the list, and a list that ends while
something is still due is at fault for its end.

The pass is tied to the grammar in both directions. Sentences go through it, and
whatever goes through it can be cut into phrases. Hence a list of kinds begins
some sentence exactly if the pass gets to its end.
-/

namespace Reckoner.Grammar

/-- What is due, with the number of open parentheses around it. -/
inductive Expectation where
  | operand (opened : Nat)
  | operator (opened : Nat)
deriving DecidableEq, Repr

namespace Expectation

/-- What is due after a token of the given kind, if such a token is expected. -/
def next : Expectation → Token.Kind → Option Expectation
  | .operand opened, .number => some (.operator opened)
  | .operand opened, .openParen => some (.operand (opened + 1))
  | .operator opened, .operator _ => some (.operand opened)
  | .operator (opened + 1), .closeParen => some (.operator opened)
  | _, _ => none

/-- What is due after tokens of the given kinds, if each of them is expected. -/
def after (expectation : Expectation) : List Token.Kind → Option Expectation
  | [] => some expectation
  | kind :: later => (expectation.next kind).bind fun following => following.after later

/-- What is wrong with the tokens from a position on, if anything is. A list may
end where an operator is due and no parenthesis is open. -/
def fault (expectation : Expectation) (position : Nat) : List Token → Option ParseError
  | [] => if expectation = .operator 0 then none else some .unexpectedEndOfInput
  | token :: later =>
    match expectation.next token.kind with
    | some following => following.fault (position + 1) later
    | none => some (.unexpectedToken token position)

/-- Kinds can be passed in two parts: the second part begins with what is due behind the
first. -/
theorem after_append (expectation : Expectation) (kinds later : List Token.Kind) :
    expectation.after (kinds ++ later) =
      (expectation.after kinds).bind fun following => following.after later := by
  induction kinds generalizing expectation with
  | nil => rfl
  | cons kind kinds inductionHypothesis =>
    simp only [List.cons_append, after, Option.bind_assoc]
    congr 1
    funext following
    exact inductionHypothesis following

/-- Tokens that are expected are not at fault. -/
theorem fault_append {expectation following : Expectation} {list : List Token}
    (expected : expectation.after (list.map Token.kind) = some following) (position : Nat)
    (later : List Token) :
    expectation.fault position (list ++ later) =
      following.fault (position + list.length) later := by
  induction list generalizing expectation position with
  | nil => rw [Option.some.inj expected, List.nil_append, List.length_nil, Nat.add_zero]
  | cons token list inductionHypothesis =>
    rw [List.map_cons, after] at expected
    obtain ⟨between, first, rest⟩ := Option.bind_eq_some_iff.mp expected
    rw [List.cons_append, fault, first, List.length_cons, Nat.add_comm list.length,
      ← Nat.add_assoc]
    exact inductionHypothesis rest (position + 1)

/-- The part of a phrase's kinds that brings an expectation to the next one. -/
def Passes (rule : Rule) (kinds : List Token.Kind) (opened : Nat) : Prop :=
  match rule with
  | .chain => (operator opened).after kinds = some (.operator opened)
  | .operand | .expression => (operand opened).after kinds = some (.operator opened)

/-- A phrase is expected throughout, in any number of parentheses, and leaves
their number as it was. -/
theorem passes_of_phrase {rule : Rule} {kinds : List Token.Kind} (phrase : Phrase rule kinds)
    (opened : Nat) : Passes rule kinds opened := by
  induction phrase generalizing opened with
  | number | noStep => rfl
  | parenthesized expression inductionHypothesis =>
    have inside := inductionHypothesis (opened + 1)
    simp only [Passes] at inside ⊢
    simp [after, next, after_append, inside]
  | step sign first rest firstHypothesis restHypothesis =>
    have link := firstHypothesis opened
    have later := restHypothesis opened
    simp only [Passes] at link later ⊢
    simp [after, next, after_append, link, later]
  | expression first rest firstHypothesis restHypothesis =>
    have lead := firstHypothesis opened
    have later := restHypothesis opened
    simp only [Passes] at lead later ⊢
    simp [after_append, lead, later]

/-- What is left of an expression behind an operand inside open parentheses: each
of them is closed behind the steps of its own chain. -/
def Closes : Nat → List Token.Kind → Prop
  | 0, kinds => Phrase .chain kinds
  | opened + 1, kinds =>
    ∃ steps later, kinds = steps ++ .closeParen :: later ∧ Phrase .chain steps ∧
      Closes opened later

/-- A step in front of what closes the parentheses is one more step. -/
theorem Closes.step {opened : Nat} {operand later : List Token.Kind} (sign : Sign)
    (first : Phrase .operand operand) (closes : Closes opened later) :
    Closes opened (.operator sign :: (operand ++ later)) := by
  match opened with
  | 0 => exact Phrase.step sign first closes
  | opened + 1 =>
    obtain ⟨steps, rest, rfl, phrase, outer⟩ := closes
    exact ⟨.operator sign :: (operand ++ steps), rest, by simp,
      Phrase.step sign first phrase, outer⟩

/-- Kinds that satisfy an expectation are cut into phrases. Where an operator is
due, they close what is open; where an operand is due, they begin with one.

Proof: induction on the kinds. An opening parenthesis moves one chain from the
open ones into the operand, and a closing one gives the innermost chain back. -/
theorem closes_of_after (kinds : List Token.Kind) (opened : Nat) :
    ((operator opened).after kinds = some (.operator 0) → Closes opened kinds) ∧
    ((operand opened).after kinds = some (.operator 0) → ∃ first later,
      kinds = first ++ later ∧ Phrase .operand first ∧ Closes opened later) := by
  induction kinds generalizing opened with
  | nil =>
    constructor
    · intro done
      obtain rfl : opened = 0 := by simpa [after] using done
      exact .noStep
    · intro impossible
      simp [after] at impossible
  | cons kind kinds inductionHypothesis =>
    constructor
    · intro done
      match kind, opened with
      | .number, _ | .openParen, _ | .closeParen, 0 => simp [after, next] at done
      | .closeParen, opened + 1 =>
        exact ⟨[], kinds, rfl, .noStep, (inductionHypothesis opened).1 done⟩
      | .operator sign, opened =>
        obtain ⟨first, later, rfl, phrase, closes⟩ := (inductionHypothesis opened).2 done
        exact closes.step sign phrase
    · intro done
      match kind with
      | .closeParen | .operator _ => simp [after, next] at done
      | .number => exact ⟨[.number], kinds, rfl, .number, (inductionHypothesis opened).1 done⟩
      | .openParen =>
        obtain ⟨first, _, rfl, phrase, steps, later, rfl, rest, closes⟩ :=
          (inductionHypothesis (opened + 1)).2 done
        exact ⟨.openParen :: (first ++ steps ++ [.closeParen]), later, by simp,
          .parenthesized (.expression phrase rest), closes⟩

/-- The pass accepts exactly the sentences. -/
theorem sentence_iff_after (kinds : List Token.Kind) :
    Sentence kinds ↔ (operand 0).after kinds = some (.operator 0) := by
  constructor
  · intro sentence
    exact passes_of_phrase sentence 0
  · intro done
    obtain ⟨first, later, rfl, phrase, closes⟩ := (closes_of_after kinds 0).2 done
    exact .expression phrase closes

/-- Kinds that satisfy an expectation: a number if an operand is due, and then the
missing parentheses. -/
def completion : Expectation → List Token.Kind
  | .operand opened => .number :: List.replicate opened .closeParen
  | .operator opened => List.replicate opened .closeParen

/-- A completion satisfies its expectation, so what has been expected so far can always be
made a sentence. -/
theorem after_completion (expectation : Expectation) :
    expectation.after expectation.completion = some (.operator 0) := by
  have closing (opened : Nat) :
      (operator opened).after (List.replicate opened .closeParen) = some (.operator 0) := by
    induction opened with
    | zero => rfl
    | succ opened inductionHypothesis => exact inductionHypothesis
  match expectation with
  | .operand opened | .operator opened => exact closing opened

/-- The tokens in front of a fault are expected. The fault is the first token that is not,
or the end of the list if there is none.

Proof: induction on the list. A token that is expected hands the fault on to those
behind it. -/
theorem exists_stop_of_fault {expectation : Expectation} {position : Nat} {list : List Token}
    {error : ParseError} (faulty : expectation.fault position list = some error) :
    ∃ count ≤ list.length, ∃ following,
      expectation.after ((list.take count).map Token.kind) = some following ∧
      (∀ inside : count < list.length, following.next list[count].kind = none ∧
        error = .unexpectedToken list[count] (position + count)) ∧
      (count = list.length → error = .unexpectedEndOfInput) := by
  induction list generalizing expectation position with
  | nil =>
    refine ⟨0, Nat.le_refl _, expectation, rfl, nofun, fun _ => ?_⟩
    unfold fault at faulty
    split at faulty
    · cases faulty
    · exact (Option.some.inj faulty).symm
  | cons token later inductionHypothesis =>
    cases expected : expectation.next token.kind with
    | none =>
      simp only [fault, expected, Option.some.injEq] at faulty
      exact ⟨0, Nat.zero_le _, expectation, rfl, fun _ => ⟨expected, faulty.symm⟩, nofun⟩
    | some following =>
      simp only [fault, expected] at faulty
      obtain ⟨count, within, last, reached, stopped, ended⟩ := inductionHypothesis faulty
      refine ⟨count + 1, Nat.succ_le_succ within, last, ?_, ?_, fun all => ended (Nat.succ.inj all)⟩
      · rw [List.take_succ_cons, List.map_cons, after, expected]
        exact reached
      · intro inside
        obtain ⟨unexpected, blamed⟩ := stopped (Nat.lt_of_succ_lt_succ inside)
        refine ⟨unexpected, ?_⟩
        rw [blamed, Nat.add_right_comm, Nat.add_assoc]
        rfl

end Expectation

/-- Kinds that some sentence begins with. -/
def Viable (kinds : List Token.Kind) : Prop := ∃ rest, Sentence (kinds ++ rest)

/-- Kinds begin some sentence exactly if each of them is expected. -/
theorem viable_iff_expected (kinds : List Token.Kind) :
    Viable kinds ↔ ∃ following, (Expectation.operand 0).after kinds = some following := by
  constructor
  · rintro ⟨rest, sentence⟩
    have done := (Expectation.sentence_iff_after _).mp sentence
    rw [Expectation.after_append] at done
    obtain ⟨following, reached, _⟩ := Option.bind_eq_some_iff.mp done
    exact ⟨following, reached⟩
  · rintro ⟨following, reached⟩
    refine ⟨following.completion, (Expectation.sentence_iff_after _).mpr ?_⟩
    rw [Expectation.after_append, reached]
    exact following.after_completion

/-- What follows kinds that begin no sentence does not mend them. -/
theorem Viable.of_append {kinds later : List Token.Kind} (viable : Viable (kinds ++ later)) :
    Viable kinds := by
  obtain ⟨rest, sentence⟩ := viable
  exact ⟨later ++ rest, by rwa [← List.append_assoc]⟩

end Reckoner.Grammar
