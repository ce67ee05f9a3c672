import Reckoner.Proofs.Grammar.Expectation
import Reckoner.Tree.Value

/-!
# Faults of trees and faults of their tokens

Two things decide whether a tree stands for an expression: working out its value,
and going through its tokens with what is due next. They were described apart
from each other, and here they are compared on trees of any shape whose literals
are numerals.

Either the tree has a value, and then each of its tokens is expected; or it has
none, and then one of its tokens is the first that is not expected. In that case
the kind of this token and the kind of the one in front of it say which error
the missing value is reported with.
-/

namespace Reckoner.Tree

open Grammar (Expectation)

mutual

/-- Whether the literals that are shown are numerals. What hangs below numbers and
operators is not shown. -/
def showsNumerals : Tree → Bool
  | .node (.number literal) _ => Decimal.isNumeral literal
  | .node (.operator _) _ => true
  | .node .group children => showsNumeralsAll children

/-- Whether the literals of several trees are numerals. -/
def showsNumeralsAll : List Tree → Bool
  | [] => true
  | tree :: later => tree.showsNumerals && showsNumeralsAll later

end

mutual

/-- The shown literals are the texts of the number tokens. -/
theorem showsNumerals_of_tokens (tree : Tree)
    (numerals : ∀ literal, some literal ∈ tree.tokens.map Token.literal? →
      Decimal.isNumeral literal = true) : tree.showsNumerals = true := by
  match tree with
  | .node (.number literal) _ => exact numerals literal List.mem_cons_self
  | .node (.operator _) _ => rfl
  | .node .group children =>
    apply showsNumeralsAll_of_tokens children
    intro literal member
    apply numerals literal
    rw [tokens, List.map_cons, List.map_append]
    exact List.mem_cons_of_mem _ (List.mem_append_left _ member)

/-- The shown literals of several trees are the texts of their number tokens. -/
theorem showsNumeralsAll_of_tokens (forest : List Tree)
    (numerals : ∀ literal, some literal ∈ (tokensAll forest).map Token.literal? →
      Decimal.isNumeral literal = true) : showsNumeralsAll forest = true := by
  match forest with
  | [] => rfl
  | tree :: later =>
    simp only [tokensAll, List.map_append, List.mem_append] at numerals
    rw [showsNumeralsAll, Bool.and_eq_true]
    constructor
    · exact showsNumerals_of_tokens tree fun literal member => numerals literal (.inl member)
    · exact showsNumeralsAll_of_tokens later fun literal member => numerals literal (.inr member)

end

/-- The error of a tree whose tokens have an unexpected one of some kind, behind a
token of another kind if there is one. -/
inductive Explains : EvalError → Option Token.Kind → Token.Kind → Prop where
  | missingOperator {previous : Option Token.Kind} {kind : Token.Kind}
      (begins : kind = .number ∨ kind = .openParen) : Explains .missingOperator previous kind
  | unexpectedOperator {previous : Option Token.Kind} (sign : Sign) :
      Explains .unexpectedOperator previous (.operator sign)
  | emptyExpression : Explains .emptyExpression (some .openParen) .closeParen
  | danglingOperator (sign : Sign) :
      Explains .danglingOperator (some (.operator sign)) .closeParen

/-- What comes before the token in front of the unexpected one does not matter. -/
theorem Explains.behind {error : EvalError} {front : List Token} {kind : Token.Kind}
    (explains : Explains error (front.getLast?.map Token.kind) kind) (before : List Token) :
    Explains error ((before ++ front).getLast?.map Token.kind) kind := by
  rw [List.getLast?_append]
  cases found : front.getLast? with
  | some last => rwa [found] at explains
  | none =>
    rw [found] at explains
    cases explains with
    | missingOperator begins => exact .missingOperator begins
    | unexpectedOperator sign => exact .unexpectedOperator sign

/-- Some token is the first that is not expected, and it explains the error. -/
def Faulty (expectation : Expectation) (list : List Token) (error : EvalError) : Prop :=
  ∃ front token later following, list = front ++ token :: later ∧
    expectation.after (front.map Token.kind) = some following ∧
    following.next token.kind = none ∧ Explains error (front.getLast?.map Token.kind) token.kind

/-- A token that is not expected is the fault of any list that begins with it. -/
theorem faulty_of_unexpected {expectation : Expectation} {token : Token} {error : EvalError}
    (unexpected : expectation.next token.kind = none) (explains : Explains error none token.kind)
    (later : List Token) : Faulty expectation (token :: later) error :=
  ⟨[], token, later, expectation, rfl, rfl, unexpected, explains⟩

/-- What follows an unexpected token leaves it the first one. -/
theorem Faulty.append {expectation : Expectation} {list : List Token} {error : EvalError}
    (faulty : Faulty expectation list error) (more : List Token) :
    Faulty expectation (list ++ more) error := by
  obtain ⟨front, token, later, following, rfl, reached, unexpected, explains⟩ := faulty
  exact ⟨front, token, later ++ more, following, by simp, reached, unexpected, explains⟩

/-- Tokens that are expected can stand in front of a fault. -/
theorem Faulty.behind {expectation following : Expectation} {list : List Token}
    {error : EvalError} (faulty : Faulty following list error) {before : List Token}
    (expected : expectation.after (before.map Token.kind) = some following) :
    Faulty expectation (before ++ list) error := by
  obtain ⟨front, token, later, last, rfl, reached, unexpected, explains⟩ := faulty
  refine ⟨before ++ front, token, later, last, (List.append_assoc _ _ _).symm, ?_, unexpected,
    explains.behind before⟩
  rw [List.map_append, Expectation.after_append, expected]
  exact reached

/-- A list with a fault is not expected as a whole. -/
theorem Faulty.after_eq_none {expectation : Expectation} {list : List Token}
    {error : EvalError} (faulty : Faulty expectation list error) :
    expectation.after (list.map Token.kind) = none := by
  obtain ⟨front, token, later, following, rfl, reached, unexpected, explains⟩ := faulty
  rw [List.map_append, Expectation.after_append, reached, Option.bind_some, List.map_cons,
    Expectation.after, unexpected]
  rfl

/-- What a value has to do with tokens: if there is one, the tokens lead from one
expectation to the other; if not, they have a fault that explains the error. -/
def Accounts (expectation following : Expectation) (list : List Token)
    (value : Except EvalError Int) : Prop :=
  match value with
  | .ok _ => expectation.after (list.map Token.kind) = some following
  | .error error => Faulty expectation list error

/-- Tokens that are expected can stand in front. -/
theorem Accounts.behind {expectation between following : Expectation} {list : List Token}
    {value : Except EvalError Int} (accounts : Accounts between following list value)
    {before : List Token} (expected : expectation.after (before.map Token.kind) = some between) :
    Accounts expectation following (before ++ list) value := by
  match value with
  | .ok _ =>
    have reached : between.after (list.map Token.kind) = some following := accounts
    simp only [Accounts, List.map_append, Expectation.after_append, expected, Option.bind_some,
      reached]
  | .error error => exact Faulty.behind accounts expected

/-- A value that is worked out in two steps is accounted for by the tokens of the
first step and then those of the second, which only counts if the first has come
to a value. -/
theorem Accounts.bind {expectation between following : Expectation} {first second : List Token}
    {value : Except EvalError Int} (accounts : Accounts expectation between first value)
    {proceed : Int → Except EvalError Int}
    (rest : ∀ total, Accounts between following second (proceed total)) :
    Accounts expectation following (first ++ second) (value.bind proceed) := by
  match value with
  | .ok total => exact (rest total).behind accounts
  | .error error => exact Faulty.append accounts second

/-- A group takes its first child as an operand and goes on behind it. -/
theorem groupValue_cons (first : Tree) (later : List Tree) :
    groupValue (first :: later) = first.value.bind fun total => valueAfterOperand total later := by
  rw [groupValue]
  cases first.value <;> rfl

/-- Behind an operator the next child is its operand, and the group goes on behind that. -/
theorem valueAfterOperator_cons (total : Int) (sign : Sign) (operand : Tree)
    (later : List Tree) : valueAfterOperator total sign (operand :: later) =
      operand.value.bind fun right => valueAfterOperand (sign.apply total right) later := by
  rw [valueAfterOperator]
  cases operand.value <;> rfl

mutual

/-- A tree has a value exactly if its tokens are expected where an operand is due,
in any number of parentheses; otherwise the first token that is not expected
explains why there is none.

Proof: induction along the functions that work out values. Each of them is taken
with the tokens that it answers for, from the one that brought it about to the
parenthesis that closes its group. -/
theorem value_accounts (tree : Tree) (numerals : tree.showsNumerals = true) (opened : Nat) :
    Accounts (.operand opened) (.operator opened) tree.tokens tree.value := by
  match tree with
  | .node (.number literal) _ =>
    have isNumeral : Decimal.isNumeral literal = true := numerals
    rw [value, literalValue, if_pos isNumeral]
    rfl
  | .node (.operator sign) later => exact faulty_of_unexpected rfl (.unexpectedOperator sign) _
  | .node .group children => exact groupValue_accounts children numerals opened

/-- The value of a group accounts for its tokens from the opening to the closing
parenthesis. An empty group is at fault for the closing one. -/
theorem groupValue_accounts (children : List Tree)
    (numerals : showsNumeralsAll children = true) (opened : Nat) :
    Accounts (.operand opened) (.operator opened)
      (.openParen :: (tokensAll children ++ [.closeParen])) (groupValue children) := by
  have opening : (Expectation.operand opened).after ([Token.openParen].map Token.kind) =
      some (.operand (opened + 1)) := rfl
  match children with
  | [] =>
    exact ⟨[.openParen], .closeParen, [], .operand (opened + 1), rfl, rfl, rfl, .emptyExpression⟩
  | first :: later =>
    simp only [showsNumeralsAll, Bool.and_eq_true] at numerals
    have lead := value_accounts first numerals.1 (opened + 1)
    have rest (total : Int) := valueAfterOperand_accounts total later numerals.2 opened
    rw [groupValue_cons, tokensAll, List.append_assoc]
    exact (lead.bind rest).behind opening

/-- Behind an operand, what follows in the group accounts for the tokens up to the closing
parenthesis. A second operand is at fault for its first token. -/
theorem valueAfterOperand_accounts (total : Int) (later : List Tree)
    (numerals : showsNumeralsAll later = true) (opened : Nat) :
    Accounts (.operator (opened + 1)) (.operator opened) (tokensAll later ++ [.closeParen])
      (valueAfterOperand total later) := by
  match later with
  | [] => rfl
  | .node (.number literal) _ :: more =>
    exact faulty_of_unexpected rfl (.missingOperator (.inl rfl)) _
  | .node .group children :: more =>
    exact faulty_of_unexpected rfl (.missingOperator (.inr rfl)) _
  | .node (.operator sign) _ :: more =>
    exact valueAfterOperator_accounts total sign more numerals opened

/-- Behind an operator, what follows accounts for the tokens up to the closing
parenthesis. The operator's own token comes with them, because it explains the error if
nothing follows. -/
theorem valueAfterOperator_accounts (total : Int) (sign : Sign) (later : List Tree)
    (numerals : showsNumeralsAll later = true) (opened : Nat) :
    Accounts (.operator (opened + 1)) (.operator opened)
      (.operator sign :: (tokensAll later ++ [.closeParen]))
      (valueAfterOperator total sign later) := by
  have operator : (Expectation.operator (opened + 1)).after ([Token.operator sign].map Token.kind) =
      some (.operand (opened + 1)) := rfl
  match later with
  | [] =>
    exact ⟨[.operator sign], .closeParen, [], .operand (opened + 1), rfl, rfl, rfl,
      .danglingOperator sign⟩
  | operand :: more =>
    simp only [showsNumeralsAll, Bool.and_eq_true] at numerals
    have link := value_accounts operand numerals.1 (opened + 1)
    have rest (right : Int) :=
      valueAfterOperand_accounts (sign.apply total right) more numerals.2 opened
    rw [valueAfterOperator_cons, tokensAll, List.append_assoc]
    exact (link.bind rest).behind operator

end

/-- A well-formed tree of numerals has a value. -/
theorem exists_value (tree : Tree) (wellFormed : tree.WellFormed)
    (numerals : tree.showsNumerals = true) : ∃ value, tree.value = .ok value := by
  cases result : tree.value with
  | ok value => exact ⟨value, rfl⟩
  | error error =>
    have accounts := value_accounts tree numerals 0
    rw [result] at accounts
    have stops := Faulty.after_eq_none accounts
    have passes := Expectation.passes_of_phrase (Grammar.phrase_of_operand tree wellFormed.2) 0
    rw [Expectation.Passes, stops] at passes
    cases passes

/-- A tree without a value is at fault for the token that explains its error. -/
theorem fault_of_error {tree : Tree} (numerals : tree.showsNumerals = true) {error : EvalError}
    (failed : tree.value = .error error) :
    ∃ front token later, tree.tokens = front ++ token :: later ∧
      (Expectation.operand 0).fault 0 tree.tokens =
        some (.unexpectedToken token front.length) ∧
      Explains error (front.getLast?.map Token.kind) token.kind := by
  have accounts := value_accounts tree numerals 0
  rw [failed] at accounts
  obtain ⟨front, token, later, following, split, reached, unexpected, explains⟩ := accounts
  refine ⟨front, token, later, split, ?_, explains⟩
  rw [split, Expectation.fault_append reached, Expectation.fault, unexpected, Nat.zero_add]

/-- A tree with a value is an expression in its tokens. -/
theorem no_fault_of_value {tree : Tree} (numerals : tree.showsNumerals = true) {value : Int}
    (worked : tree.value = .ok value) :
    (Expectation.operand 0).fault 0 tree.tokens = none := by
  have accounts := value_accounts tree numerals 0
  rw [worked] at accounts
  have ended := Expectation.fault_append accounts 0 []
  rw [List.append_nil] at ended
  rw [ended]
  rfl

end Reckoner.Tree
