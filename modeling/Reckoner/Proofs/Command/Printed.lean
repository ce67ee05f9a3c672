import Reckoner.Proofs.Calculation.Composition
import Reckoner.Proofs.Command.Session
import Reckoner.Proofs.Text.Numeral

/-!
# Printed results

The result of an expression is printed as the canonical decimal of its value. If the
value is not negative, this is again an expression, namely a single number. A negative
result cannot be typed in again as it is, because no expression begins with a sign, but
behind a zero it can: the sign is an operator there.

So the printed result tells the value, and texts of the same value are printed alike.
-/

namespace Reckoner

/-- A numeral is worked out to its number, with or without zeros in front. -/
theorem evaluate_numeral {numeral : String} (isNumeral : Decimal.isNumeral numeral = true) :
    evaluate numeral = .ok (Decimal.read numeral : Int) ∧
      evaluate ("0" ++ numeral) = .ok (Decimal.read numeral : Int) := by
  have withZero : Decimal.isNumeral ("0" ++ numeral) = true :=
    Decimal.isNumeral_append rfl isNumeral
  constructor
  · exact (Expresses.numeral isNumeral).evaluate_eq
  · rw [(Expresses.numeral withZero).evaluate_eq, Decimal.read_zero_append]

/-- A numeral behind a minus sign is no expression, but it is taken away from a zero in
front of the sign. -/
theorem evaluate_minus_numeral {numeral : String} (isNumeral : Decimal.isNumeral numeral = true) :
    evaluate ("-" ++ numeral) =
        .error (.unreadable (.grammatical (.unexpectedToken (.operator .subtract) 0))) ∧
      evaluate ("0" ++ ("-" ++ numeral)) = .ok (-(Decimal.read numeral : Int)) := by
  have right := Expresses.numeral isNumeral
  constructor
  · exact evaluate_behind_sign .subtract right.scanned
  · have zero : Expresses "0" [.number "0"] [.number "0"] 0 := Expresses.numeral rfl
    have difference := (zero.spliced right (Tree.value_number isNumeral) rfl .subtract).evaluate_eq
    rw [String.append_assoc, Sign.apply, Int.zero_sub, Int.sub_add_cancel] at difference
    exact difference

namespace Command

/-- Without a tree nothing but the value is printed. -/
theorem render_of_value {text : String} {value : Int} (evaluated : evaluate text = .ok value) :
    render false text = .ok (Decimal.write value) := by
  cases read : Tree.ofText text with
  | error cause => simp [evaluate, read] at evaluated
  | ok tree =>
    cases worked : tree.value with
    | error cause => simp [evaluate, read, worked] at evaluated
    | ok reached =>
      obtain rfl : reached = value := by simpa [evaluate, read, worked] using evaluated
      simp [render, read, worked]

/-- The text of an integer is worked out to it behind a zero. -/
theorem evaluate_zero_write (value : Int) : evaluate ("0" ++ Decimal.write value) = .ok value := by
  cases value with
  | ofNat number =>
    have worked := (evaluate_numeral (Decimal.isNumeral_writeNat number)).2
    rwa [Decimal.read_writeNat] at worked
  | negSucc number =>
    have worked := (evaluate_minus_numeral (Decimal.isNumeral_writeNat (number + 1))).2
    rwa [Decimal.read_writeNat] at worked

/-- The printed result of a text is the canonical decimal of its value. Behind a zero it is
worked out to the same value again. Alone it is too, and printed as itself, if the value is
not negative; the sign of a negative one cannot stand at the start of a text. Hence texts
are printed alike exactly if they have the same value. -/
theorem printed_result_reads_back {text : String} {value : Int}
    (evaluated : evaluate text = .ok value) :
    ∃ printed, render false text = .ok printed ∧ Decimal.IsCanonical printed value ∧
      evaluate ("0" ++ printed) = .ok value ∧
      (0 ≤ value → evaluate printed = .ok value ∧ render false printed = .ok printed) ∧
      (value < 0 → evaluate printed =
        .error (.unreadable (.grammatical (.unexpectedToken (.operator .subtract) 0)))) ∧
      ∀ (other : String) (otherValue : Int), evaluate other = .ok otherValue →
        (render false other = render false text ↔ otherValue = value) := by
  have shown := render_of_value evaluated
  have readBack := evaluate_zero_write value
  refine ⟨Decimal.write value, shown, Decimal.isCanonical_iff.mpr rfl, readBack, ?_, ?_, ?_⟩
  · intro natural
    obtain ⟨number, rfl⟩ := Int.eq_ofNat_of_zero_le natural
    have worked := (evaluate_numeral (Decimal.isNumeral_writeNat number)).1
    rw [Decimal.read_writeNat] at worked
    exact ⟨worked, render_of_value worked⟩
  · intro negative
    obtain ⟨number, rfl⟩ := Int.eq_negSucc_of_lt_zero negative
    exact (evaluate_minus_numeral (Decimal.isNumeral_writeNat (number + 1))).1
  · intro other otherValue otherEvaluated
    rw [render_of_value otherEvaluated, shown]
    constructor
    · intro alike
      have sameText : Decimal.write otherValue = Decimal.write value := Except.ok.inj alike
      have otherBack := evaluate_zero_write otherValue
      rw [sameText, readBack] at otherBack
      exact (Except.ok.inj otherBack).symm
    · rintro rfl
      rfl

/-- The value -2 is printed alike for two texts, without the zero that one of them has. -/
theorem negative_result_read_back :
    evaluate "3 - 05" = .ok (-2) ∧ render false "3 - 05" = .ok "-2" ∧
      Decimal.IsCanonical "-2" (-2) ∧ evaluate ("0" ++ "-2") = .ok (-2) ∧
      evaluate "-2" =
        .error (.unreadable (.grammatical (.unexpectedToken (.operator .subtract) 0))) ∧
      render false "(1) - 3" = render false "3 - 05" := by
  let difference : List Tree := [.number "3", .operator .subtract, .number "05"]
  let other : List Tree := [.node .group [.number "1"], .operator .subtract, .number "3"]
  have numerals : Tree.showsNumeralsAll difference = true := by decide
  have otherNumerals : Tree.showsNumeralsAll other = true := by decide
  have parsed : Tree.ofText "3 - 05" = .ok (.node .group difference) :=
    Tree.ofText_textAll numerals rfl
  have otherParsed : Tree.ofText "(1) - 3" = .ok (.node .group other) :=
    Tree.ofText_textAll otherNumerals rfl
  have evaluated : evaluate "3 - 05" = .ok (-2) := by
    rw [evaluate, parsed]
    rfl
  have otherEvaluated : evaluate "(1) - 3" = .ok (-2) := by
    rw [evaluate, otherParsed]
    rfl
  obtain ⟨printed, shown, canonical, readBack, _, alone, alike⟩ :=
    printed_result_reads_back evaluated
  obtain rfl : printed = "-2" := Decimal.isCanonical_iff.mp canonical
  have sameText := (alike _ _ otherEvaluated).mpr rfl
  exact ⟨evaluated, shown, canonical, readBack, alone (by decide), sameText⟩

end Command

end Reckoner
