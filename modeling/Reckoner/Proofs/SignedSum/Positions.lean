import Reckoner.Proofs.SignedSum.Pass

/-!
# Signed sums by position

The signed sum of a token list is described here number by number. A number counts
with a minus sign for every subtraction that stands immediately in front of it or
in front of a parenthesis that encloses it. Which parentheses enclose a position
is said by counting: the number of open ones does not fall back, between the
parenthesis and the position, to what it was in front of the parenthesis.

No stack appears in this description. The pass with its stack comes to the same
sum, because its stack holds the signs in front of the enclosing parentheses.
-/

namespace Reckoner.SignedSum

open Token (kindAt kindBefore)

/-- By how much a token of some kind changes the number of open parentheses. -/
def opens : Token.Kind → Int
  | .openParen => 1
  | .closeParen => -1
  | .number | .operator _ => 0

/-- How many more parentheses are opened than closed in front of a position. -/
def depth (list : List Token) (position : Nat) : Int :=
  ((list.take position).map fun token => opens token.kind).sum

/-- The position stands inside the parentheses that are opened at `opening`. -/
def Encloses (list : List Token) (opening position : Nat) : Prop :=
  opening < position ∧ kindAt list opening = some .openParen ∧
    ∀ between ≤ position, opening < between → depth list opening < depth list between

/-- What encloses a position is decided by counting up to there. -/
instance (list : List Token) (opening position : Nat) :
    Decidable (Encloses list opening position) :=
  inferInstanceAs (Decidable (_ ∧ _ ∧ _))

/-- What stands in front of `other` bears on the position: it is the position itself,
or a parenthesis around it. -/
def bearsOn (list : List Token) (position other : Nat) : Bool :=
  decide (other = position) || decide (Encloses list other position)

/-- The number of subtractions immediately in front of a position or of a
parenthesis around it. -/
def flips (list : List Token) (position : Nat) : Nat :=
  (List.range position).countP fun earlier =>
    kindAt list earlier = some (.operator .subtract) && bearsOn list position (earlier + 1)

/-- What the token at a position adds to the sum; only numbers add anything. -/
def contribution (list : List Token) (position : Nat) : Int :=
  match list[position]? with
  | some ⟨.number, digits⟩ => (-1) ^ flips list position * Decimal.read digits
  | _ => 0

/-- The sum of all contributions. -/
def byPosition (list : List Token) : Int :=
  ((List.range list.length).map (contribution list)).sum

/-- A token changes the depth by what it opens. -/
theorem depth_succ {list : List Token} {position : Nat} {token : Token}
    (found : list[position]? = some token) :
    depth list (position + 1) = depth list position + opens token.kind := by
  simp [depth, List.take_add_one, found]

/-- A parenthesis encloses the next position if it encloses this one and the depth
does not fall back, or if it is opened here. -/
theorem encloses_succ (list : List Token) (opening position : Nat) :
    Encloses list opening (position + 1) ↔
      (Encloses list opening position ∧ depth list opening < depth list (position + 1)) ∨
      (opening = position ∧ kindAt list position = some .openParen ∧
        depth list position < depth list (position + 1)) := by
  constructor
  · rintro ⟨before, isOpen, above⟩
    have last := above (position + 1) (Nat.le_refl _) before
    by_cases here : opening = position
    · exact .inr ⟨here, here ▸ isOpen, here ▸ last⟩
    · refine .inl ⟨⟨by omega, isOpen, ?_⟩, last⟩
      intro between within
      exact above between (Nat.le_succ_of_le within)
  · rintro (⟨⟨before, isOpen, above⟩, last⟩ | ⟨rfl, isOpen, last⟩)
    · refine ⟨Nat.lt_succ_of_lt before, isOpen, ?_⟩
      intro between within beyond
      by_cases here : between = position + 1
      · exact here ▸ last
      · exact above between (by omega) beyond
    · refine ⟨Nat.lt_succ_self _, isOpen, ?_⟩
      intro between within beyond
      obtain rfl : between = opening + 1 := by omega
      exact last

/-- Whether a subtraction stands immediately in front of a position. -/
def behindSubtract (list : List Token) (position : Nat) : Bool :=
  kindBefore list position = some (.operator .subtract)

/-- The sign that the token in front of a position makes. -/
def signBefore (list : List Token) (position : Nat) : Int :=
  if behindSubtract list position then -1 else 1

/-- The signs in front of positions make a minus for every subtraction among them. -/
theorem prod_signBefore (list : List Token) (positions : List Nat) :
    (positions.map (signBefore list)).prod = (-1) ^ positions.countP (behindSubtract list) := by
  induction positions with
  | nil => rfl
  | cons position positions inductionHypothesis =>
    rw [List.map_cons, List.prod_cons, inductionHypothesis, List.countP_cons, signBefore]
    split
    · rw [pow_succ]
      ring
    · rw [Int.one_mul, Nat.add_zero]

/-- The positions on a stack are one level deep each: the depth in front of each of
them is one less than behind it. -/
def Nested (list : List Token) (depthBehind : Int) : List Nat → Prop
  | [] => True
  | position :: below =>
    depth list position = depthBehind - 1 ∧ Nested list (depthBehind - 1) below

/-- A position on a stack is less deep than what stands behind all of them. -/
theorem Nested.depth_lt {list : List Token} {depthBehind : Int} {positions : List Nat}
    (nested : Nested list depthBehind positions) {position : Nat}
    (member : position ∈ positions) : depth list position < depthBehind := by
  induction positions generalizing depthBehind with
  | nil => cases member
  | cons first below inductionHypothesis =>
    rcases List.mem_cons.mp member with rfl | later
    · have := nested.1
      omega
    · have := inductionHypothesis nested.2 later
      omega

/-- The positions of the parentheses around a position, the innermost first. -/
structure Stack (list : List Token) (position : Nat) (positions : List Nat) : Prop where
  distinct : positions.Nodup
  nested : Nested list (depth list position) positions
  encloses : ∀ opening, opening ∈ positions ↔ Encloses list opening position

/-- What a step of the pass does to the stack of positions. -/
def restack (position : Nat) (positions : List Nat) : Token.Kind → List Nat
  | .openParen => position :: positions
  | .closeParen => positions.tail
  | .number | .operator _ => positions

/-- Nothing encloses the first position. -/
theorem stack_start (list : List Token) : Stack list 0 [] :=
  ⟨List.nodup_nil, trivial, fun opening => by simp [Encloses]⟩

/-- No position encloses itself. -/
theorem Stack.outside {list : List Token} {position : Nat} {positions : List Nat}
    (stack : Stack list position positions) : position ∉ positions := by
  intro member
  exact Nat.lt_irrefl _ ((stack.encloses position).mp member).1

/-- The positions around the next position are those that the step leaves. A closing
parenthesis removes the innermost one and no other, because the others are opened
at smaller depths. -/
theorem Stack.step {list : List Token} {position : Nat} {positions : List Nat} {token : Token}
    (stack : Stack list position positions) (found : list[position]? = some token) :
    Stack list (position + 1) (restack position positions token.kind) := by
  have deeper := depth_succ found
  have kindHere : kindAt list position = some token.kind := congrArg (Option.map _) found
  have below {opening : Nat} (member : opening ∈ positions) := stack.nested.depth_lt member
  cases kind : token.kind with
  | number | operator sign =>
    rw [kind, opens, Int.add_zero] at deeper
    refine ⟨stack.distinct, deeper ▸ stack.nested, ?_⟩
    intro opening
    rw [encloses_succ, ← stack.encloses, kindHere, kind, deeper]
    constructor
    · intro member
      exact .inl ⟨member, below member⟩
    · rintro (⟨member, _⟩ | ⟨_, impossible, _⟩)
      · exact member
      · cases impossible
  | openParen =>
    rw [kind, opens] at deeper
    refine ⟨List.nodup_cons.mpr ⟨stack.outside, stack.distinct⟩, ⟨by omega, ?_⟩, ?_⟩
    · rw [deeper, Int.add_sub_cancel]
      exact stack.nested
    · intro opening
      rw [encloses_succ, ← stack.encloses, kindHere, kind, restack, List.mem_cons]
      constructor
      · rintro (rfl | member)
        · exact .inr ⟨rfl, rfl, by omega⟩
        · have := below member
          exact .inl ⟨member, by omega⟩
      · rintro (⟨member, _⟩ | ⟨rfl, _⟩)
        · exact .inr member
        · exact .inl rfl
  | closeParen =>
    rw [kind, opens] at deeper
    refine ⟨stack.distinct.tail, ?_, ?_⟩
    · match positions, stack.nested with
      | [], _ => trivial
      | innermost :: outer, nested => exact deeper ▸ nested.2
    · intro opening
      rw [encloses_succ, ← stack.encloses, kindHere, kind, restack]
      match positions, stack.nested with
      | [], _ => simp
      | innermost :: outer, nested =>
        obtain ⟨top, rest⟩ := nested
        constructor
        · intro member
          have := rest.depth_lt member
          exact .inl ⟨List.mem_cons_of_mem _ member, by omega⟩
        · rintro (⟨member, shallow⟩ | ⟨_, impossible, _⟩)
          · rcases List.mem_cons.mp member with rfl | later
            · omega
            · exact later
          · cases impossible

/-- The subtractions that count for a position are those in front of it and of the
positions on its stack. -/
theorem Stack.flips_eq {list : List Token} {position : Nat} {positions : List Nat}
    (stack : Stack list position positions) :
    flips list position = (position :: positions).countP (behindSubtract list) := by
  have same : (position :: positions).Perm
      ((List.range (position + 1)).filter (bearsOn list position)) := by
    apply (List.perm_ext_iff_of_nodup (List.nodup_cons.mpr ⟨stack.outside, stack.distinct⟩)
      (List.nodup_range.filter _)).mpr
    intro other
    rw [List.mem_cons, List.mem_filter, List.mem_range, bearsOn, Bool.or_eq_true,
      decide_eq_true_eq, decide_eq_true_eq, stack.encloses]
    constructor
    · rintro (rfl | encloses)
      · exact ⟨Nat.lt_succ_self _, .inl rfl⟩
      · exact ⟨Nat.lt_succ_of_lt encloses.1, .inr encloses⟩
    · intro member
      exact member.2
  rw [same.countP_eq, List.countP_filter, List.range_succ_eq_map, List.countP_cons,
    List.countP_map]
  rfl

/-- The sign under which the pass adds a number is the one that the subtractions in
front of it and of its parentheses make together. -/
theorem Stack.sign {list : List Token} {position : Nat} {positions : List Nat}
    (stack : Stack list position positions) :
    (positions.map (signBefore list)).prod * signBefore list position =
      (-1) ^ flips list position := by
  rw [stack.flips_eq, ← prod_signBefore, List.map_cons, List.prod_cons, Int.mul_comm]

/-- The state of the pass in front of a position. -/
structure Describes (list : List Token) (position : Nat) (positions : List Nat)
    (sum : SignedSum) : Prop where
  stack : Stack list position positions
  signs : sum.signs = positions.map (signBefore list)
  sign : sum.sign = signBefore list position
  total : sum.total = ((List.range position).map (contribution list)).sum

/-- In front of the first token nothing is open and nothing has been added. -/
theorem describes_start (list : List Token) : Describes list 0 [] start where
  stack := stack_start list
  signs := rfl
  sign := rfl
  total := rfl

/-- Each step of the pass keeps its description. A number is added under the sign that its
position calls for, and other tokens add nothing. -/
theorem Describes.step {list : List Token} {position : Nat} {positions : List Nat}
    {sum : SignedSum} {token : Token} (describes : Describes list position positions sum)
    (found : list[position]? = some token) :
    Describes list (position + 1) (restack position positions token.kind) (sum.step token) := by
  obtain ⟨stack, signs, sign, total⟩ := describes
  obtain ⟨kind, value⟩ := token
  have added : ((List.range (position + 1)).map (contribution list)).sum =
      sum.total + contribution list position := by
    rw [List.range_succ, List.map_append, List.sum_append, ← total]
    simp
  have kindHere : behindSubtract list (position + 1) = decide (kind = .operator .subtract) := by
    simp [behindSubtract, kindBefore, kindAt, found]
  cases kind with
  | number =>
    refine ⟨stack.step found, signs, by simp [SignedSum.step, signBefore, kindHere], ?_⟩
    rw [added, contribution, found, ← stack.sign, ← signs, ← sign]
    rfl
  | openParen =>
    refine ⟨stack.step found, ?_, by simp [SignedSum.step, signBefore, kindHere], ?_⟩
    · rw [restack, List.map_cons, ← signs, ← sign]
      rfl
    · rw [added, contribution, found]
      exact (Int.add_zero _).symm
  | closeParen =>
    refine ⟨stack.step found, ?_, by simp [SignedSum.step, signBefore, kindHere], ?_⟩
    · rw [restack, List.map_tail, ← signs]
      rfl
    · rw [added, contribution, found]
      exact (Int.add_zero _).symm
  | operator sign =>
    refine ⟨stack.step found, signs, ?_, ?_⟩
    · cases sign <;> simp [SignedSum.step, signBefore, kindHere, Sign.factor]
    · rw [added, contribution, found]
      exact (Int.add_zero _).symm

/-- The pass over the tokens in front of a position is described by the position. -/
theorem exists_describes (list : List Token) (position : Nat) (within : position ≤ list.length) :
    ∃ positions, Describes list position positions (start.run (list.take position)) := by
  refine Token.foldl_keeps (fun position sum => ∃ positions, Describes list position positions sum)
    ⟨[], describes_start list⟩ ?_ position within
  rintro position token sum found ⟨positions, describes⟩
  exact ⟨_, describes.step found⟩

/-- The pass with its stack of signs comes to the sum of all contributions, for any
token list. -/
theorem ofTokens_eq_byPosition (list : List Token) : ofTokens list = byPosition list := by
  obtain ⟨positions, describes⟩ := exists_describes list list.length (Nat.le_refl _)
  have total := describes.total
  rwa [List.take_length] at total

end Reckoner.SignedSum
