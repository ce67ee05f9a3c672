import Reckoner.Proofs.Grammar.Language

/-!
# What a parse accepts

An accepting run consumes exactly the tokens of the forest it appends, and the
forest has the shape that its rule admits. The other way round, every forest of
that shape has an accepting run wherever its tokens come next, provided that no
operator follows to prolong the chain. Runs are unique, so a parse accepts the
flattenings of well-formed trees and returns the tree that was flattened.
-/

namespace Reckoner.Grammar

variable {tokens : Array Token}

/-- An accepting run appends a forest of its rule's shape and consumes the tokens
of that forest.

Proof: induction on the run. A chain that ends consumes nothing, because the
reading is sent back; all other cases put the consumed tokens of the parts
together. -/
theorem Run.consumes {around : List Nat} {rule : Rule} {reading after : Reading tokens}
    {answer : Except ParseError (List Tree)} (run : Run around rule reading answer after)
    (forest : List Tree) (accepted : answer = .ok forest) :
    rule.admits forest = true ∧ reading.unread.map Token.essence =
      (Tree.tokensAll forest).map Token.essence ++ after.unread.map Token.essence := by
  induction run generalizing forest with
  | stray _ _ _ | openAtEnd _ _ _ | insideRejected _ _ _ _ | unclosed _ _ _ _ _
  | leadRejected _ _ => cases accepted
  | number next kind =>
    cases accepted
    refine ⟨rfl, ?_⟩
    rw [Reading.unread_of_peek next, List.map_cons, Token.essence_of_number kind]
    rfl
  | closed next kind inside found closes inductionHypothesis =>
    cases accepted
    obtain ⟨shape, spelled⟩ := inductionHypothesis _ rfl
    refine ⟨shape, ?_⟩
    rw [Reading.unread_noNumber, Reading.unread_of_peek found] at spelled
    rw [Reading.unread_of_peek next, List.map_cons, spelled, Token.essence_of_kind kind (by decide)]
    simp [Tree.tokensAll, Tree.tokens, Token.essence_of_kind closes]
  | exhausted ended =>
    cases accepted
    exact ⟨rfl, rfl⟩
  | noOperator _ _ | operatorAtEnd _ _ _ | linkRejected _ _ _ _ =>
    cases accepted
    exact ⟨rfl, by rw [Reading.unread_endAt _ _ rfl]; rfl⟩
  | linked next isSign link rest linkHypothesis restHypothesis =>
    cases accepted
    obtain ⟨linkShape, linkSpelled⟩ := linkHypothesis _ rfl
    obtain ⟨restShape, restSpelled⟩ := restHypothesis _ rfl
    refine ⟨Rule.admits_step _ linkShape restShape, ?_⟩
    rw [Reading.unread_of_peek next, List.map_cons, linkSpelled, restSpelled]
    simp [Tree.tokensAll_append, Tree.tokensAll, Tree.tokens, Tree.operator,
      Token.essence_of_sign isSign]
  | led lead rest leadHypothesis restHypothesis =>
    cases accepted
    obtain ⟨leadShape, leadSpelled⟩ := leadHypothesis _ rfl
    obtain ⟨restShape, restSpelled⟩ := restHypothesis _ rfl
    refine ⟨Rule.admits_expression leadShape restShape, ?_⟩
    rw [Reading.unread_log] at leadSpelled
    rw [leadSpelled, restSpelled, Tree.tokensAll_append, List.map_append, List.append_assoc]

/-- When the next tokens begin with a known essence, there is a next token with
that essence. -/
theorem Reading.peek_of_essence {reading : Reading tokens} {essence : Token.Kind × Option String}
    {rest : List (Token.Kind × Option String)}
    (spelled : reading.unread.map Token.essence = essence :: rest) :
    ∃ token, reading.cursor.peek = some token ∧ token.essence = essence ∧
      reading.past.unread.map Token.essence = rest := by
  obtain ⟨token, later, unread, same, laterSpelled⟩ := List.map_eq_cons_iff.mp spelled
  have next : reading.cursor.peek = some token := by rw [peek_eq_head?, unread]; rfl
  refine ⟨token, next, same, ?_⟩
  have split := unread_of_peek next
  rw [unread] at split
  rw [← (List.cons.inj split).2, laterSpelled]

/-- Nothing follows that would prolong a chain. -/
def Stops (rest : List (Token.Kind × Option String)) : Prop :=
  ∀ sign text later, rest ≠ (.operator sign, text) :: later

mutual

/-- An operand is read wherever its tokens come next.

Proof: along the shape of the tree, together with the two lemmas below. The next token has
the kind that the tree asks for, and this picks the way through the rule. -/
theorem operand_run (tree : Tree) (shape : tree.isOperand = true) (around : List Nat)
    (reading : Reading tokens) {rest : List (Token.Kind × Option String)}
    (spelled : reading.unread.map Token.essence = tree.tokens.map Token.essence ++ rest) :
    ∃ after, Run around .operand reading (.ok [tree]) after ∧
      after.unread.map Token.essence = rest := by
  match tree with
  | .node (.number literal) children =>
    obtain rfl : children = [] := List.isEmpty_iff.mp shape
    have split : reading.unread.map Token.essence = (.number, some literal) :: rest := spelled
    obtain ⟨token, next, same, later⟩ := Reading.peek_of_essence split
    have kind : token.kind = .number := congrArg Prod.fst same
    have value : token.value = literal := by
      simpa [Token.essence_of_number kind] using same
    have run : Run around .operand reading (.ok [.number token.value]) _ := .number next kind
    rw [value] at run
    exact ⟨_, run, later⟩
  | .node (.operator _) _ => simp [Tree.isOperand] at shape
  | .node .group children =>
    have split : reading.unread.map Token.essence = (.openParen, none) ::
        ((Tree.tokensAll children).map Token.essence ++ (.closeParen, none) :: rest) := by
      simpa [Tree.tokens] using spelled
    obtain ⟨opening, next, openSame, inner⟩ := Reading.peek_of_essence split
    have stops : Stops ((.closeParen, none) :: rest) := by simp [Stops]
    obtain ⟨behind, inside, outer⟩ := expression_run children shape around
      reading.noNumber.past stops inner
    obtain ⟨closing, found, closeSame, later⟩ := Reading.peek_of_essence outer
    exact ⟨behind.past, .closed next (congrArg Prod.fst openSame) inside found
      (congrArg Prod.fst closeSame), later⟩

/-- A chain is read wherever its tokens come next and no operator follows. -/
theorem expression_run (forest : List Tree) (shape : Tree.isChain forest = true)
    (enclosing : List Nat) (reading : Reading tokens)
    {rest : List (Token.Kind × Option String)} (stops : Stops rest)
    (spelled : reading.unread.map Token.essence =
      (Tree.tokensAll forest).map Token.essence ++ rest) :
    ∃ after, Run enclosing .expression reading (.ok forest) after ∧
      after.unread.map Token.essence = rest := by
  match forest with
  | first :: later =>
    simp only [Tree.isChain, Bool.and_eq_true] at shape
    rw [Tree.tokensAll, List.map_append, List.append_assoc] at spelled
    obtain ⟨behind, lead, between⟩ := operand_run first shape.1 (reading.pos :: enclosing)
      (reading.log (.expressionBegun reading.pos enclosing)) spelled
    obtain ⟨after, run, last⟩ := chain_run later shape.2 (reading.pos :: enclosing) behind
      stops between
    exact ⟨after, .led lead run, last⟩

/-- The steps behind an operand are read as a chain, unless an operator follows them, which
would begin one more step. -/
theorem chain_run (forest : List Tree) (shape : Tree.isRest forest = true) (around : List Nat)
    (reading : Reading tokens) {rest : List (Token.Kind × Option String)} (stops : Stops rest)
    (spelled : reading.unread.map Token.essence =
      (Tree.tokensAll forest).map Token.essence ++ rest) :
    ∃ after, Run around .chain reading (.ok forest) after ∧
      after.unread.map Token.essence = rest := by
  match forest with
  | [] =>
    cases next : reading.cursor.peek with
    | none => exact ⟨reading, .exhausted next, spelled⟩
    | some token =>
      have notSign : token.sign? = none := by
        cases isSign : token.sign? with
        | none => rfl
        | some sign =>
          rw [Reading.unread_of_peek next, List.map_cons, Token.essence_of_sign isSign] at spelled
          exact absurd spelled.symm (stops _ _ _)
      exact ⟨_, .noOperator next notSign, spelled⟩
  | .node .group _ :: _ | .node (.number _) _ :: _ | [.node (.operator sign) _] =>
    simp [Tree.isRest, Tree.isChain] at shape
  | .node (.operator sign) below :: operand :: later =>
    simp only [Tree.isRest, Tree.isChain, Bool.and_eq_true, List.isEmpty_iff] at shape
    obtain ⟨rfl, isOperand, isRest⟩ := shape
    have split : reading.unread.map Token.essence = (.operator sign, none) ::
        (operand.tokens.map Token.essence ++
          ((Tree.tokensAll later).map Token.essence ++ rest)) := by
      simpa [Tree.tokensAll, Tree.tokens] using spelled
    obtain ⟨token, next, same, inner⟩ := Reading.peek_of_essence split
    have isSign : token.sign? = some sign := by
      rw [Token.sign?, show token.kind = .operator sign from congrArg Prod.fst same]
    obtain ⟨behind, link, between⟩ := operand_run operand isOperand around reading.past inner
    obtain ⟨after, run, last⟩ := chain_run later isRest around behind stops between
    exact ⟨after, .linked next isSign link run, last⟩

end

/-- A list with tokens in it is parsed as a run from its start says. -/
theorem ofTokens_concludes {list : List Token} (occupied : list ≠ []) :
    ∃ answer after, Run [] .expression (Reading.start list.toArray) answer after ∧
      Tree.ofTokens list = (conclude answer after).result := by
  have inside : 0 < list.toArray.size := List.length_pos_iff.mpr occupied
  obtain ⟨answer, after, run, concluded⟩ := parse_concludes Rewind.checked_faithful inside
  exact ⟨answer, after, run, congrArg Parse.result concluded⟩

/-- A run is concluded with a tree if it accepts and leaves nothing unread. -/
theorem conclude_eq_ok {answer : Except ParseError (List Tree)} {after : Reading tokens}
    {tree : Tree} (accepted : (conclude answer after).result = .ok tree) :
    ∃ forest, answer = .ok forest ∧ tree = .node .group forest ∧ after.cursor.peek = none := by
  match answer with
  | .error error => cases accepted
  | .ok forest =>
    cases next : after.cursor.peek with
    | some token => simp [conclude, next] at accepted
    | none =>
      simp only [conclude, next, Except.ok.injEq] at accepted
      exact ⟨forest, rfl, accepted.symm, rfl⟩

/-- A tree that is returned is a group of the forest of a run to the end of the
list. -/
theorem run_of_accepted {list : List Token} {tree : Tree}
    (accepted : Tree.ofTokens list = .ok tree) :
    ∃ forest after, tree = .node .group forest ∧
      Run [] .expression (Reading.start list.toArray) (.ok forest) after ∧
      after.cursor.peek = none := by
  have occupied : list ≠ [] := by
    rintro rfl
    cases accepted
  obtain ⟨answer, after, run, concluded⟩ := ofTokens_concludes occupied
  rw [concluded] at accepted
  obtain ⟨forest, rfl, rfl, ended⟩ := conclude_eq_ok accepted
  exact ⟨forest, after, rfl, run, ended⟩

/-- What a parse returns is well formed and flattened to the tokens it read. -/
theorem spelled_of_accepted {list : List Token} {tree : Tree}
    (accepted : Tree.ofTokens list = .ok tree) :
    tree.WellFormed ∧ list.map Token.essence = tree.flatten.map Token.essence := by
  obtain ⟨forest, after, rfl, run, ended⟩ := run_of_accepted accepted
  obtain ⟨shape, spelled⟩ := run.consumes forest rfl
  rw [(Reading.unread_eq_nil_iff after).mpr ended] at spelled
  exact ⟨Tree.wellFormed_group.mpr shape, by simpa [Tree.flatten, Tree.children] using spelled⟩

/-- Every token list that is flattened from a well-formed tree is parsed to that
tree. The run built from the tree is the one that the parse follows. -/
theorem accepted_of_spelled {list : List Token} {tree : Tree} (wellFormed : tree.WellFormed)
    (spelled : list.map Token.essence = tree.flatten.map Token.essence) :
    Tree.ofTokens list = .ok tree := by
  obtain ⟨children, rfl, shape⟩ := wellFormed.exists_chain
  have stops : Stops [] := nofun
  have start : (Reading.start list.toArray).unread.map Token.essence =
      (Tree.tokensAll children).map Token.essence ++ [] := by
    simpa [Tree.flatten, Tree.children] using spelled
  obtain ⟨last, run, done⟩ := expression_run children shape [] (Reading.start list.toArray)
    stops start
  have occupied : list ≠ [] := by
    rintro rfl
    exact Nat.not_lt_zero _ (run.begins_inside (by decide))
  obtain ⟨answer, after, actual, concluded⟩ := ofTokens_concludes occupied
  obtain ⟨rfl, rfl⟩ := run.functional actual
  have ended : last.cursor.peek = none :=
    (Reading.unread_eq_nil_iff last).mp (List.map_eq_nil_iff.mp done)
  rw [concluded]
  simp [conclude, ended]

/-- A token list is parsed to a well-formed tree exactly if it has the kinds of the
flattened tree and the literals of its numbers; the other texts do not matter. All
trees that are returned are such trees, and the lists for which one is returned
are those whose kinds the grammar derives. -/
theorem accepted_iff_flattened (list : List Token) :
    (∀ tree : Tree, tree.WellFormed →
      ((∃ parsed, Tree.ofTokens list = .ok parsed ∧ parsed.same tree = true) ↔
        list.map Token.essence = tree.flatten.map Token.essence)) ∧
    (∀ parsed, Tree.ofTokens list = .ok parsed →
      parsed.WellFormed ∧ list.map Token.essence = parsed.flatten.map Token.essence) ∧
    ((∃ parsed, Tree.ofTokens list = .ok parsed) ↔ Sentence (list.map Token.kind)) := by
  refine ⟨?_, fun parsed => spelled_of_accepted, ?_, ?_⟩
  · intro tree wellFormed
    constructor
    · rintro ⟨parsed, accepted, same⟩
      obtain rfl := (Tree.same_iff_eq parsed tree).mp same
      exact (spelled_of_accepted accepted).2
    · intro spelled
      exact ⟨tree, accepted_of_spelled wellFormed spelled, (Tree.same_iff_eq tree tree).mpr rfl⟩
  · rintro ⟨parsed, accepted⟩
    obtain ⟨wellFormed, spelled⟩ := spelled_of_accepted accepted
    obtain ⟨children, rfl, shape⟩ := wellFormed.exists_chain
    have kinds := congrArg (List.map Prod.fst) spelled
    simp only [List.map_map] at kinds
    change list.map Token.kind = (Tree.tokensAll children).map Token.kind at kinds
    exact kinds ▸ phrase_of_chain children shape
  · intro sentence
    obtain ⟨forest, shape, spelled⟩ := sentence.exists_forest list rfl
    exact ⟨.node .group forest, accepted_of_spelled (Tree.wellFormed_group.mpr shape) spelled⟩

/-- Texts that contradict their kinds are no obstacle, and a literal may be
anything. -/
theorem contradictory_texts_accepted :
    (Tree.node .group [.number "1", .operator .subtract, .node .group [.number "x"]]).WellFormed ∧
      ∃ parsed, Tree.ofTokens [⟨.number, "1"⟩, ⟨.operator .subtract, "+"⟩, ⟨.openParen, ")"⟩,
          ⟨.number, "x"⟩, ⟨.closeParen, ""⟩] = .ok parsed ∧
        parsed.same (.node .group [.number "1", .operator .subtract,
          .node .group [.number "x"]]) = true :=
  ⟨by decide, ((accepted_iff_flattened _).1 _ (by decide)).mpr (by decide)⟩

end Reckoner.Grammar
