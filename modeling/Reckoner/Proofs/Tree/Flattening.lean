import Reckoner.Token.Basic
import Reckoner.Tree.Basic

/-!
# Trees as token lists

A tree is written down as tokens by going through it from left to right: a number
and an operator are one token, and a group is its children between parentheses.
The outermost group of a parsed tree has no parentheses, so a whole tree is
flattened to the tokens of its children.

Only some trees are flattened to expressions. In a chain operands and operators
take turns, beginning and ending with an operand; an operand is a number or again
a chain in a group. Nothing hangs below numbers and operators. The predicates are
computed, so a tree can be tested for its shape.
-/

namespace Reckoner

/-- What the rules see of a token: its kind, and its text if it is a number. -/
def Token.essence (token : Token) : Token.Kind × Option String := (token.kind, token.literal?)

/-- Of a number the literal is seen. -/
@[simp] theorem Token.essence_number (literal : String) :
    (Token.number literal).essence = (.number, some literal) := rfl

/-- Of an operator only the kind is seen, which has the sign. -/
@[simp] theorem Token.essence_operator (sign : Sign) :
    (Token.operator sign).essence = (.operator sign, none) := rfl

/-- Of an opening parenthesis only the kind is seen. -/
@[simp] theorem Token.essence_openParen : Token.openParen.essence = (.openParen, none) := rfl

/-- Of a closing parenthesis only the kind is seen. -/
@[simp] theorem Token.essence_closeParen : Token.closeParen.essence = (.closeParen, none) := rfl

/-- Of a token that is a number, the text is seen as its literal. -/
theorem Token.essence_of_number {token : Token} (kind : token.kind = .number) :
    token.essence = (.number, some token.value) := by
  simp [essence, literal?, kind]

/-- The text of a token that is no number is not seen. -/
theorem Token.essence_of_kind {token : Token} {kind : Token.Kind} (same : token.kind = kind)
    (notNumber : kind ≠ .number) : token.essence = (kind, none) := by
  simp [essence, literal?, same, notNumber]

/-- The rules tell two tokens apart by their kinds and by the literals of numbers. -/
theorem Token.essence_eq_iff {token other : Token} :
    token.essence = other.essence ↔
      token.kind = other.kind ∧ (token.kind = .number → token.value = other.value) := by
  by_cases number : token.kind = .number
  · by_cases otherNumber : other.kind = .number
    · simp [essence, literal?, number, otherNumber]
    · simp [essence, number, Ne.symm otherNumber]
  · simp only [essence, literal?, Prod.mk.injEq, number, if_false, false_implies, and_true]
    constructor
    · exact And.left
    · intro kinds
      exact ⟨kinds, (if_neg (kinds ▸ number)).symm⟩

/-- A pass whose steps see no more of a token than the rules do comes to the same on
lists that the rules do not tell apart. -/
theorem Token.foldl_eq_of_essence {State : Type} {step : State → Token → State}
    (alike : ∀ state token other, Token.essence token = Token.essence other →
      step state token = step state other) (state : State) {list others : List Token}
    (same : list.map Token.essence = others.map Token.essence) :
    list.foldl step state = others.foldl step state := by
  induction list generalizing state others with
  | nil =>
    obtain rfl : others = [] := List.map_eq_nil_iff.mp same.symm
    rfl
  | cons token list inductionHypothesis =>
    obtain ⟨first, later, rfl, firstSame, laterSame⟩ := List.map_eq_cons_iff.mp same.symm
    rw [List.foldl_cons, List.foldl_cons, alike state token first firstSame.symm]
    exact inductionHypothesis _ laterSame.symm

/-- What the start of a pass has and each of its steps keeps, the pass has in front of
every position. -/
theorem Token.foldl_keeps {State : Type} {step : State → Token → State} {start : State}
    {list : List Token} (Holds : Nat → State → Prop) (begins : Holds 0 start)
    (keeps : ∀ position token state, list[position]? = some token → Holds position state →
      Holds (position + 1) (step state token))
    (position : Nat) (within : position ≤ list.length) :
    Holds position ((list.take position).foldl step start) := by
  induction position with
  | zero => exact begins
  | succ position inductionHypothesis =>
    have found : list[position]? = some list[position] := List.getElem?_eq_getElem within
    rw [List.take_add_one, found, List.foldl_append]
    exact keeps position _ _ found (inductionHypothesis (Nat.le_of_succ_le within))

/-- An operator token is seen by its sign. -/
theorem Token.essence_of_sign {token : Token} {sign : Sign} (isSign : token.sign? = some sign) :
    token.essence = (.operator sign, none) := by
  unfold sign? at isSign
  split at isSign
  · rename_i other kind
    obtain rfl := Option.some.inj isSign
    exact essence_of_kind kind nofun
  · cases isSign

/-- The kind of the token at a position. -/
def Token.kindAt (list : List Token) (position : Nat) : Option Token.Kind :=
  list[position]?.map Token.kind

/-- The kind of the token immediately in front of a position. -/
def Token.kindBefore (list : List Token) : Nat → Option Token.Kind
  | 0 => none
  | earlier + 1 => kindAt list earlier

/-- Where a list is cut in front of a token, the token stands at the length of the first
part. -/
theorem Token.kindAt_append_cons (front : List Token) (token : Token) (later : List Token) :
    kindAt (front ++ token :: later) front.length = some token.kind := by
  simp [kindAt]

/-- Where a list is cut, the last token of the first part stands in front of the second
part. -/
theorem Token.kindBefore_append (front later : List Token) :
    kindBefore (front ++ later) front.length = front.getLast?.map Token.kind := by
  rcases List.eq_nil_or_concat front with rfl | ⟨before, last, rfl⟩
  · rfl
  · simp [kindBefore, kindAt]

namespace Tree

mutual

/-- The tokens of a tree, a group with its parentheses. -/
def tokens : Tree → List Token
  | .node (.number literal) _ => [.number literal]
  | .node (.operator sign) _ => [.operator sign]
  | .node .group children => .openParen :: (tokensAll children ++ [.closeParen])

/-- The tokens of neighbours. -/
def tokensAll : List Tree → List Token
  | [] => []
  | tree :: later => tree.tokens ++ tokensAll later

end

/-- The tokens of the root's children, without parentheses around them. -/
def flatten (tree : Tree) : List Token := tokensAll tree.children

/-- The tokens of neighbours in two parts are those of the first part and then those of the
second. -/
theorem tokensAll_append (forest later : List Tree) :
    tokensAll (forest ++ later) = tokensAll forest ++ tokensAll later := by
  induction forest with
  | nil => rfl
  | cons tree forest inductionHypothesis => simp [tokensAll, inductionHypothesis]

mutual

/-- A number, or a group that holds a chain. -/
def isOperand : Tree → Bool
  | .node (.number _) children => children.isEmpty
  | .node (.operator _) _ => false
  | .node .group children => isChain children

/-- An operand and what may follow it. -/
def isChain : List Tree → Bool
  | [] => false
  | first :: later => first.isOperand && isRest later

/-- Nothing, or an operator in front of a chain. -/
def isRest : List Tree → Bool
  | .node (.operator _) below :: later => below.isEmpty && isChain later
  | later => later.isEmpty

end

/-- The trees that stand for expressions: a group with a chain in it. -/
def WellFormed (tree : Tree) : Prop := tree.kind = .group ∧ tree.isOperand = true

/-- A tree can be tested for its shape by going through it. -/
instance (tree : Tree) : Decidable tree.WellFormed :=
  inferInstanceAs (Decidable (_ ∧ _))

/-- A group stands for an expression exactly if its children are a chain. -/
theorem wellFormed_group {children : List Tree} :
    (node .group children).WellFormed ↔ isChain children = true := by
  simp [WellFormed, kind, isOperand]

/-- A well-formed tree is a group, and its children are a chain. -/
theorem WellFormed.exists_chain {tree : Tree} (wellFormed : tree.WellFormed) :
    ∃ children, tree = .node .group children ∧ isChain children = true := by
  obtain ⟨kind, children⟩ := tree
  obtain ⟨rfl, shape⟩ := wellFormed
  exact ⟨children, rfl, shape⟩

/-- An operator and an operand with what follows it can follow an operand. -/
theorem isRest_step (sign : Sign) (operand : Tree) (later : List Tree) :
    isRest (.operator sign :: operand :: later) = (operand.isOperand && isRest later) := by
  simp [isRest, isChain, operator]

end Tree

end Reckoner
