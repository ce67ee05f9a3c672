import Reckoner.Text.Decimal
import Reckoner.Tree.Basic

/-!
# The value of a tree

A number has the value of its literal. A group is worked out from left to right:
its first operand, then each operator with the operand after it, and no operator
binds tighter than another. A nested group is reduced to its value where it
stands, before anything to its right is looked at.

Trees can be malformed in many ways. The first fault on the way from left to
right is the one that is reported, and an operand where an operator should stand
is a fault whatever is inside it. Values are exact integers of any size, so
nothing overflows.
-/

namespace Reckoner

/-- Why a tree has no value. -/
inductive EvalError where
  | emptyExpression
  | invalidNumber (literal : String)
  | unexpectedOperator
  | missingOperator
  | danglingOperator
deriving DecidableEq, Repr, Inhabited

/-- The message for a tree without a value. The literal is shown as it is. -/
def EvalError.message : EvalError → String
  | .emptyExpression => "cannot evaluate an empty expression"
  | .invalidNumber literal => "invalid number literal \"" ++ literal ++ "\""
  | .unexpectedOperator => "found an operator where an operand was expected"
  | .missingOperator => "found two operands with no operator between them"
  | .danglingOperator => "expression ends with an operator"

namespace Tree

/-- The value of a literal, which must be a numeral. -/
def literalValue (literal : String) : Except EvalError Int :=
  if Decimal.isNumeral literal then .ok (Decimal.read literal) else .error (.invalidNumber literal)

mutual

/-- The value of a tree. Children of numbers and operators do not count. -/
def value : Tree → Except EvalError Int
  | .node (.number literal) _ => literalValue literal
  | .node (.operator _) _ => .error .unexpectedOperator
  | .node .group children => groupValue children

/-- The value of a group with the given children. -/
def groupValue : List Tree → Except EvalError Int
  | [] => .error .emptyExpression
  | first :: later =>
    match first.value with
    | .ok total => valueAfterOperand total later
    | .error error => .error error

/-- The value of a group that has come to `total` after an operand. -/
def valueAfterOperand (total : Int) : List Tree → Except EvalError Int
  | [] => .ok total
  | .node (.operator sign) _ :: later => valueAfterOperator total sign later
  | _ :: _ => .error .missingOperator

/-- The value of a group that has come to `total` before an operator. A second
operator has no value of its own, which is the fault to report. -/
def valueAfterOperator (total : Int) (sign : Sign) : List Tree → Except EvalError Int
  | [] => .error .danglingOperator
  | operand :: later =>
    match operand.value with
    | .ok right => valueAfterOperand (sign.apply total right) later
    | .error error => .error error

end

end Tree

end Reckoner
