import Mathlib.Tactic.Ring
import Reckoner.Proofs.Tree.Flattening
import Reckoner.Tree.Value

/-!
# Signed sums in one pass

A second way to work out an expression goes through its tokens once and builds no
tree. Each number is added or subtracted at once, with the sign that the operator
in front of it and those in front of the parentheses around it make together. The
signs of the open parentheses are kept on a stack.

Where a tree has a value, the pass over its tokens adds this value, under the sign
that the pass has come to, and leaves the stack as it was.
-/

namespace Reckoner

/-- What an operator multiplies the operand on its right with. -/
def Sign.factor : Sign → Int
  | .add => 1
  | .subtract => -1

/-- An operator adds its right operand, multiplied with its factor. -/
theorem Sign.apply_eq (sign : Sign) (left right : Int) :
    sign.apply left right = left + sign.factor * right := by
  cases sign with
  | add => simp [apply, factor]
  | subtract => simp [apply, factor, Int.sub_eq_add_neg]

/-- The state of a pass: the signs in front of the open parentheses, the innermost
first; the sign in front of the next token; and the sum of the numbers so far. -/
structure SignedSum where
  signs : List Int
  sign : Int
  total : Int
deriving DecidableEq, Repr

namespace SignedSum

/-- Nothing is open, and nothing has been added. -/
def start : SignedSum := ⟨[], 1, 0⟩

/-- Takes one token. -/
def step (sum : SignedSum) (token : Token) : SignedSum :=
  match token.kind with
  | .number => ⟨sum.signs, 1, sum.total + sum.signs.prod * sum.sign * Decimal.read token.value⟩
  | .openParen => ⟨sum.sign :: sum.signs, 1, sum.total⟩
  | .closeParen => ⟨sum.signs.tail, 1, sum.total⟩
  | .operator sign => ⟨sum.signs, sign.factor, sum.total⟩

/-- Takes tokens one after the other. -/
def run (sum : SignedSum) (list : List Token) : SignedSum := list.foldl step sum

/-- The signed sum of a token list. -/
def ofTokens (list : List Token) : Int := (start.run list).total

/-- Without tokens the pass stays where it is. -/
@[simp] theorem run_nil (sum : SignedSum) : sum.run [] = sum := rfl

/-- The pass takes the first token and then the others. -/
@[simp] theorem run_cons (sum : SignedSum) (token : Token) (list : List Token) :
    sum.run (token :: list) = (sum.step token).run list := rfl

/-- The pass can be made over two lists one after the other. -/
@[simp] theorem run_append (sum : SignedSum) (list later : List Token) :
    sum.run (list ++ later) = (sum.run list).run later := List.foldl_append

/-- A step goes by the kind of the token and the literal of a number. -/
theorem step_eq_of_essence (sum : SignedSum) {token other : Token}
    (same : token.essence = other.essence) : sum.step token = sum.step other := by
  obtain ⟨kinds, values⟩ := Token.essence_eq_iff.mp same
  cases kind : token.kind with
  | number => simp only [step, ← kinds, kind, values kind]
  | openParen | closeParen | operator sign => simp only [step, ← kinds, kind]

/-- The pass goes by the kinds of tokens and the literals of numbers. -/
theorem run_eq_of_essence (sum : SignedSum) {list other : List Token}
    (same : list.map Token.essence = other.map Token.essence) : sum.run list = sum.run other :=
  Token.foldl_eq_of_essence (fun sum _ _ => step_eq_of_essence sum) sum same

open Reckoner.Tree

mutual

/-- The tokens of a tree with a value add that value under the sign in front.

Proof: induction along the functions that work out values. A group adds its
children under one more sign on the stack, and its closing parenthesis takes the
sign away again; behind an operand what is still to come adds the difference to
the value of the whole group. -/
theorem run_tokens (tree : Tree) {value : Int} (worked : tree.value = .ok value)
    (sum : SignedSum) :
    sum.run tree.tokens = ⟨sum.signs, 1, sum.total + sum.signs.prod * sum.sign * value⟩ := by
  match tree with
  | .node (.number literal) _ =>
    rw [Tree.value, literalValue] at worked
    split at worked
    · cases worked
      rfl
    · cases worked
  | .node (.operator _) _ => cases worked
  | .node .group children =>
    have inside := run_group children worked (sum.sign :: sum.signs) sum.total
    rw [tokens, run_cons, run_append]
    change ((⟨sum.sign :: sum.signs, 1, sum.total⟩ : SignedSum).run _).run _ = _
    rw [inside, List.prod_cons, Int.mul_comm sum.sign]
    rfl

/-- The children of a group add its value, under the signs of the parentheses around
them. -/
theorem run_group (children : List Tree) {value : Int} (worked : groupValue children = .ok value)
    (signs : List Int) (total : Int) :
    (⟨signs, 1, total⟩ : SignedSum).run (tokensAll children) =
      ⟨signs, 1, total + signs.prod * value⟩ := by
  match children with
  | [] => cases worked
  | first :: later =>
    rw [groupValue] at worked
    split at worked
    · rename_i lead leadWorked
      have rest := run_afterOperand lead later worked signs
      rw [tokensAll, run_append, run_tokens first leadWorked, rest]
      congr 1
      ring
    · cases worked

/-- Behind an operand, the children that follow add what is missing. -/
theorem run_afterOperand (before : Int) (later : List Tree) {value : Int}
    (worked : valueAfterOperand before later = .ok value) (signs : List Int) (total : Int) :
    (⟨signs, 1, total⟩ : SignedSum).run (tokensAll later) =
      ⟨signs, 1, total + signs.prod * (value - before)⟩ := by
  match later with
  | [] =>
    cases worked
    simp [tokensAll]
  | .node (.operator sign) _ :: more => exact run_afterOperator before sign more worked signs total
  | .node .group _ :: _ | .node (.number _) _ :: _ => cases worked

/-- Behind an operator, whose sign is in front of the next child, they add what is missing
as well. -/
theorem run_afterOperator (before : Int) (sign : Sign) (later : List Tree) {value : Int}
    (worked : valueAfterOperator before sign later = .ok value) (signs : List Int)
    (total : Int) :
    (⟨signs, sign.factor, total⟩ : SignedSum).run (tokensAll later) =
      ⟨signs, 1, total + signs.prod * (value - before)⟩ := by
  match later with
  | [] => cases worked
  | operand :: more =>
    rw [valueAfterOperator] at worked
    split at worked
    · rename_i right rightWorked
      have rest := run_afterOperand (sign.apply before right) more worked signs
      rw [tokensAll, run_append, run_tokens operand rightWorked, rest, Sign.apply_eq]
      congr 1
      ring
    · cases worked

end

/-- A well-formed tree has the signed sum of its tokens as value. -/
theorem ofTokens_flatten {tree : Tree} (isGroup : tree.kind = .group) {value : Int}
    (worked : tree.value = .ok value) : ofTokens tree.flatten = value := by
  obtain ⟨kind, children⟩ := tree
  obtain rfl : kind = .group := isGroup
  have whole := run_group children worked [] 0
  rw [ofTokens, flatten, Tree.children, start, whole]
  simp

/-- The parentheses around a whole tree do not matter. -/
theorem ofTokens_tokens {tree : Tree} {value : Int} (worked : tree.value = .ok value) :
    ofTokens tree.tokens = value := by
  rw [ofTokens, run_tokens tree worked start]
  simp [start]

end SignedSum

end Reckoner
