import Reckoner.Proofs.Grammar.Run
import Reckoner.Proofs.Tree.Flattening

/-!
# The language of expressions

The grammar is stated once more, as derivations over token kinds and without a
parser. A phrase of a rule is a list of kinds that the rule derives; a sentence is
a phrase of the rule for expressions.

Well-formed trees are the derivations written down as data: their tokens are
phrases, and every token list whose kinds are a phrase is flattened from one.
-/

namespace Reckoner.Grammar

/-- The lists of kinds that a rule derives. -/
inductive Phrase : Rule → List Token.Kind → Prop where
  /-- `E' → number` -/
  | number : Phrase .operand [.number]
  /-- `E' → "(" E ")"` -/
  | parenthesized {inside : List Token.Kind} (expression : Phrase .expression inside) :
      Phrase .operand (.openParen :: (inside ++ [.closeParen]))
  /-- `(Op E')*` without a step -/
  | noStep : Phrase .chain []
  /-- `(Op E')*` with a first step -/
  | step {operand later : List Token.Kind} (sign : Sign) (first : Phrase .operand operand)
      (rest : Phrase .chain later) : Phrase .chain (.operator sign :: (operand ++ later))
  /-- `E → E' (Op E')*` -/
  | expression {operand later : List Token.Kind} (first : Phrase .operand operand)
      (rest : Phrase .chain later) : Phrase .expression (operand ++ later)

/-- The lists of kinds that are an expression. -/
def Sentence (kinds : List Token.Kind) : Prop := Phrase .expression kinds

/-- The forests that a rule appends. -/
def Rule.admits : Rule → List Tree → Bool
  | .operand, [tree] => tree.isOperand
  | .operand, _ => false
  | .chain, forest => Tree.isRest forest
  | .expression, forest => Tree.isChain forest

/-- An operand is a single tree. -/
theorem Rule.admits_operand {forest : List Tree} :
    Rule.operand.admits forest = true ↔ ∃ tree, forest = [tree] ∧ tree.isOperand = true := by
  match forest with
  | [] | _ :: _ :: _ => simp [Rule.admits]
  | [tree] => simp [Rule.admits]

/-- A step and the steps behind it are admitted together. -/
theorem Rule.admits_step (sign : Sign) {forest later : List Tree}
    (first : Rule.operand.admits forest = true) (rest : Rule.chain.admits later = true) :
    Rule.chain.admits (.operator sign :: forest ++ later) = true := by
  obtain ⟨tree, rfl, isOperand⟩ := admits_operand.mp first
  have shape : Tree.isRest later = true := rest
  simp [Rule.admits, Tree.isRest_step, isOperand, shape]

/-- An operand and the steps behind it are an expression. -/
theorem Rule.admits_expression {forest later : List Tree}
    (first : Rule.operand.admits forest = true) (rest : Rule.chain.admits later = true) :
    Rule.expression.admits (forest ++ later) = true := by
  obtain ⟨tree, rfl, isOperand⟩ := admits_operand.mp first
  have shape : Tree.isRest later = true := rest
  simp [Rule.admits, Tree.isChain, isOperand, shape]

mutual

/-- An operand is flattened to a phrase. -/
theorem phrase_of_operand (tree : Tree) (shape : tree.isOperand = true) :
    Phrase .operand (tree.tokens.map Token.kind) := by
  match tree with
  | .node (.number literal) _ => exact .number
  | .node (.operator sign) _ => simp [Tree.isOperand] at shape
  | .node .group children =>
    have inside := phrase_of_chain children shape
    simpa [Tree.tokens, Token.openParen, Token.closeParen] using inside.parenthesized

/-- A chain is flattened to a sentence. -/
theorem phrase_of_chain (forest : List Tree) (shape : Tree.isChain forest = true) :
    Phrase .expression ((Tree.tokensAll forest).map Token.kind) := by
  match forest with
  | first :: later =>
    simp only [Tree.isChain, Bool.and_eq_true] at shape
    rw [Tree.tokensAll, List.map_append]
    exact .expression (phrase_of_operand first shape.1) (phrase_of_rest later shape.2)

/-- What follows an operand in a chain is flattened to steps. -/
theorem phrase_of_rest (forest : List Tree) (shape : Tree.isRest forest = true) :
    Phrase .chain ((Tree.tokensAll forest).map Token.kind) := by
  match forest with
  | [] => exact .noStep
  | .node .group _ :: _ | .node (.number _) _ :: _ | [.node (.operator sign) _] =>
    simp [Tree.isRest, Tree.isChain] at shape
  | .node (.operator sign) _ :: operand :: later =>
    simp only [Tree.isRest, Tree.isChain, Bool.and_eq_true] at shape
    have first := phrase_of_operand operand shape.2.1
    have rest := phrase_of_rest later shape.2.2
    simpa [Tree.tokensAll, Tree.tokens, Token.operator] using Phrase.step sign first rest

end

/-- Every token list whose kinds are a phrase is flattened from trees, with the
same literals. The induction cuts the token list where the derivation cuts the
phrase. -/
theorem Phrase.exists_forest {rule : Rule} {kinds : List Token.Kind} (phrase : Phrase rule kinds)
    (tokens : List Token) (same : tokens.map Token.kind = kinds) :
    ∃ forest, rule.admits forest = true ∧
      tokens.map Token.essence = (Tree.tokensAll forest).map Token.essence := by
  induction phrase generalizing tokens with
  | number =>
    obtain ⟨token, rfl, kind⟩ := List.map_eq_singleton_iff.mp same
    exact ⟨[.number token.value], rfl,
      by simp [Tree.tokensAll, Tree.tokens, Tree.number, Token.essence_of_number kind]⟩
  | parenthesized expression inductionHypothesis =>
    obtain ⟨opening, behind, rfl, openKind, split⟩ := List.map_eq_cons_iff.mp same
    obtain ⟨inside, closing, rfl, insideKinds, last⟩ := List.map_eq_append_iff.mp split
    obtain ⟨closing, rfl, closeKind⟩ := List.map_eq_singleton_iff.mp last
    obtain ⟨forest, shape, spelled⟩ := inductionHypothesis inside insideKinds
    refine ⟨[.node .group forest], by simpa [Rule.admits, Tree.isOperand] using shape, ?_⟩
    simp [Tree.tokensAll, Tree.tokens, spelled, Token.essence_of_kind openKind,
      Token.essence_of_kind closeKind]
  | noStep =>
    obtain rfl := List.map_eq_nil_iff.mp same
    exact ⟨[], rfl, rfl⟩
  | step sign first rest firstHypothesis restHypothesis =>
    obtain ⟨operator, behind, rfl, operatorKind, split⟩ := List.map_eq_cons_iff.mp same
    obtain ⟨operand, later, rfl, operandKinds, laterKinds⟩ := List.map_eq_append_iff.mp split
    obtain ⟨forest, isOperand, operandSpelled⟩ := firstHypothesis operand operandKinds
    obtain ⟨more, shape, laterSpelled⟩ := restHypothesis later laterKinds
    refine ⟨_, Rule.admits_step sign isOperand shape, ?_⟩
    simp [Tree.tokensAll_append, Tree.tokensAll, Tree.tokens, Tree.operator, operandSpelled,
      laterSpelled, Token.essence_of_kind operatorKind]
  | expression first rest firstHypothesis restHypothesis =>
    obtain ⟨operand, later, rfl, operandKinds, laterKinds⟩ := List.map_eq_append_iff.mp same
    obtain ⟨forest, isOperand, operandSpelled⟩ := firstHypothesis operand operandKinds
    obtain ⟨more, shape, laterSpelled⟩ := restHypothesis later laterKinds
    refine ⟨_, Rule.admits_expression isOperand shape, ?_⟩
    simp [Tree.tokensAll_append, operandSpelled, laterSpelled]

end Reckoner.Grammar
