import Reckoner.Grammar.Reading
import Reckoner.Tree.Basic

/-!
# The grammar of expressions

    E  → E' (Op E')*
    E' → number | "(" E ")"
    Op → "+" | "-"

An expression is a chain of operands with an operator between neighbours, and an
operand is a number or an expression in parentheses. Each rule gets the tree that
was built so far and returns a longer one, so a chain becomes one flat group and
only parentheses nest. A rule that fails leaves the tree it got as it was, and
the caller goes on with that.

The two alternatives of an operand are tried in order, and the cursor is sent
back between them. A chain takes one more operator and operand as long as they
can be read; the step that cannot be read is undone, and the chain ends in front
of it. Every rejection on the way is put aside, and in the end the one that
reached furthest is reported.

The rules call each other with fewer tokens left, or with as many and a lower
rule of the grammar. So they end on every token list, and only parentheses make
the calls nest.
-/

namespace Reckoner.Grammar

variable {tokens : Array Token}

/-- A number, appended to the tree. -/
def number (tree : Tree) (reading : Reading tokens) : Outcome tokens reading.left Tree :=
  match reading.take Token.literal? with
  | .accepted literal after advanced => .accepted (tree.push (.number literal)) after advanced
  | .rejected error after => .rejected error after

/-- A token of the given kind. -/
def expect (kind : Token.Kind) (reading : Reading tokens) : Outcome tokens reading.left Unit :=
  reading.take fun token => if token.kind = kind then some () else none

/-- Puts aside an alternative that was rejected. -/
def Reading.abandon (reading : Reading tokens) (alternative : Alternative) (error : ParseError) :
    Reading tokens :=
  (reading.log (.alternativeFailed alternative reading.pos error)).note error

/-- Giving up an alternative leaves the cursor where the alternative left it. It is sent
back in a step of its own. -/
@[simp] theorem Reading.cursor_abandon (reading : Reading tokens) (alternative : Alternative)
    (error : ParseError) : (reading.abandon alternative error).cursor = reading.cursor := by
  simp [Reading.abandon]

/-- Puts aside a step that was rejected behind the operand that ends at
`position`. -/
def Reading.endChain (reading : Reading tokens) (position : Nat) (error : ParseError) :
    Reading tokens :=
  (reading.log (.chainEnded position error)).note error

mutual

/-- An expression, appended operand by operand to the tree. `enclosing` has the
positions at which the expressions around this one were begun. -/
def expression (rewind : Rewind tokens) (enclosing : List Nat) (tree : Tree)
    (reading : Reading tokens) : Outcome tokens reading.left Tree :=
  match operand rewind (reading.pos :: enclosing) tree
      (reading.log (.expressionBegun reading.pos enclosing)) with
  | .accepted longer after advanced =>
    chain rewind (reading.pos :: enclosing) longer after reading.left advanced
  | .rejected error after => .rejected error after
termination_by 3 * reading.left + 2
decreasing_by all_goals simp only [Reading.left, Reading.cursor_log] at *; omega

/-- The rest of an expression behind an operand: as many operators with an
operand each as there are. The expression began with more than the tokens now
left, namely with `bound`. -/
def chain (rewind : Rewind tokens) (around : List Nat) (tree : Tree) (reading : Reading tokens)
    (bound : Nat) (within : reading.left < bound) : Outcome tokens bound Tree :=
  if reading.cursor.isExhausted then .accepted tree reading within
  else
    match step rewind around reading with
    | .accepted link after advanced =>
      chain rewind around (tree.extend link) after bound (Nat.lt_trans advanced within)
    | .rejected error after =>
      match (after.endChain reading.pos error).sendBack rewind reading.pos with
      | .moved again placed =>
        .accepted tree again (Reading.left_eq_of_pos_eq placed ▸ within : again.left < bound)
      | .refused error after => .rejected error after
termination_by 3 * reading.left + 1
decreasing_by all_goals omega

/-- One operator with the operand behind it, as a group of the two. -/
def step (rewind : Rewind tokens) (around : List Nat) (reading : Reading tokens) :
    Outcome tokens reading.left Tree :=
  match reading.take Token.sign? with
  | .rejected error after => .rejected error after
  | .accepted sign after advanced =>
    if after.cursor.isExhausted then .rejected .unexpectedEndOfInput after
    else
      match operand rewind around (Tree.emptyGroup.push (.operator sign)) after with
      | .accepted link behind further => .accepted link behind (Nat.lt_trans further advanced)
      | .rejected error behind => .rejected error behind
termination_by 3 * reading.left
decreasing_by omega

/-- An operand, appended to the tree: a number, or else an expression in
parentheses. If both fail, the cursor is back where it was and the second
rejection is the answer. -/
def operand (rewind : Rewind tokens) (around : List Nat) (tree : Tree)
    (reading : Reading tokens) : Outcome tokens reading.left Tree :=
  match number tree (reading.log (.operandBegun reading.pos)) with
  | .accepted longer after advanced => .accepted longer after advanced
  | .rejected error after =>
    match (after.abandon .number error).sendBack rewind reading.pos with
    | .refused error after => .rejected error after
    | .moved again placed =>
      match parenthesized rewind around tree again with
      | .accepted longer after advanced =>
        .accepted longer after
          (Nat.lt_of_lt_of_eq advanced (Reading.left_eq_of_pos_eq placed))
      | .rejected error after =>
        match (after.abandon .parenthesized error).sendBack rewind reading.pos with
        | .refused error after => .rejected error after
        | .moved again _ => .rejected error again
termination_by 3 * reading.left + 1
decreasing_by
  have := Reading.left_eq_of_pos_eq placed
  omega

/-- An expression in parentheses, appended to the tree as one group. -/
def parenthesized (rewind : Rewind tokens) (around : List Nat) (tree : Tree)
    (reading : Reading tokens) : Outcome tokens reading.left Tree :=
  match expect .openParen reading with
  | .rejected error after => .rejected error after
  | .accepted _ opened advanced =>
    if opened.cursor.isExhausted then .rejected .unexpectedEndOfInput opened
    else
      match expression rewind around Tree.emptyGroup opened with
      | .rejected error after => .rejected error after
      | .accepted inner after further =>
        match expect .closeParen after with
        | .rejected error after => .rejected error after
        | .accepted _ closed last =>
          .accepted (tree.push inner) closed
            (Nat.lt_trans last (Nat.lt_trans further advanced))
termination_by 3 * reading.left
decreasing_by omega

end

end Reckoner.Grammar
