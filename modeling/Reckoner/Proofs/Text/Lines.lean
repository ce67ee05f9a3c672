import Reckoner.Text.Lines

/-!
# How bytes are cut into lines

A line is what stands in front of a newline, less one carriage return, or what is
left behind the last newline if anything is. `Cut` says so without a word on the
order in which bytes are looked at. Every input is cut into lines in one way only,
which is the one that `split` finds.
-/

namespace Reckoner.Lines

/-- The lines of an input. A carriage return counts for nothing only directly in front
of a newline, and only one does: the line may end with another one. -/
inductive Cut : List UInt8 → List (List UInt8) → Prop where
  | nothing : Cut [] []
  | unended {line : List UInt8} (occupied : line ≠ []) (inside : newline ∉ line) :
      Cut line [line]
  | ended {line rest : List UInt8} {later : List (List UInt8)} (inside : newline ∉ line)
      (bare : line.getLast? ≠ some carriageReturn) (cut : Cut rest later) :
      Cut (line ++ newline :: rest) (line :: later)
  | returned {line rest : List UInt8} {later : List (List UInt8)} (inside : newline ∉ line)
      (cut : Cut rest later) :
      Cut (line ++ carriageReturn :: newline :: rest) (line :: later)

/-- The bytes of a line are held back until it ends. -/
theorem splitFrom_append {line : List UInt8} (inside : newline ∉ line)
    (held rest : List UInt8) :
    splitFrom held (line ++ rest) = splitFrom (line.reverse ++ held) rest := by
  induction line generalizing held with
  | nil => rfl
  | cons byte line inductionHypothesis =>
    have other : byte ≠ newline := fun same => inside (same ▸ List.mem_cons_self)
    have more : newline ∉ line := fun member => inside (List.mem_cons_of_mem byte member)
    rw [List.cons_append, splitFrom, if_neg other, inductionHypothesis more, List.reverse_cons,
      List.append_assoc, List.singleton_append]

/-- A newline ends the line that is held back. -/
theorem splitFrom_newline (held rest : List UInt8) :
    splitFrom held (newline :: rest) = finished held :: split rest := by
  rw [splitFrom, if_pos rfl, split]

/-- A line that ends without a carriage return is taken as it is. -/
theorem finished_of_bare {line : List UInt8} (bare : line.getLast? ≠ some carriageReturn) :
    finished line.reverse = line := by
  rw [← List.head?_reverse] at bare
  cases reversed : line.reverse with
  | nil => rw [List.reverse_eq_nil_iff.mp reversed, finished]
  | cons byte earlier =>
    have other : byte ≠ carriageReturn := by
      rintro rfl
      exact bare (by rw [reversed, List.head?_cons])
    rw [finished, if_neg other, ← reversed, List.reverse_reverse]

/-- The lines of an input are those that `split` finds. -/
theorem Cut.eq_split {bytes : List UInt8} {lines : List (List UInt8)} (cut : Cut bytes lines) :
    lines = split bytes := by
  induction cut with
  | nothing => rfl
  | @unended line occupied inside =>
    have whole := splitFrom_append inside [] []
    rw [List.append_nil, List.append_nil] at whole
    rw [split, whole, splitFrom, if_neg (by simpa using occupied), List.reverse_reverse]
  | @ended line rest later inside bare cut inductionHypothesis =>
    rw [split, splitFrom_append inside, List.append_nil, splitFrom_newline,
      finished_of_bare bare, ← inductionHypothesis]
  | @returned line rest later inside cut inductionHypothesis =>
    have other : carriageReturn ≠ newline := by decide
    rw [split, splitFrom_append inside, splitFrom, if_neg other, List.append_nil,
      splitFrom_newline, finished, if_pos rfl, List.reverse_reverse, ← inductionHypothesis]

/-- What is held back without a newline, and what follows, is cut into the lines that
`splitFrom` finds.

Proof: induction on the bytes that follow. A newline ends the line that is held back,
with or without a carriage return at its end; any other byte is held back as well. -/
theorem cut_splitFrom {held : List UInt8} (inside : newline ∉ held) (bytes : List UInt8) :
    Cut (held.reverse ++ bytes) (splitFrom held bytes) := by
  induction bytes generalizing held with
  | nil =>
    cases held with
    | nil => exact .nothing
    | cons byte held =>
      rw [List.append_nil]
      exact .unended (by simp) (by rwa [List.mem_reverse])
  | cons byte rest inductionHypothesis =>
    by_cases ends : byte = newline
    · subst ends
      rw [splitFrom_newline]
      have later : Cut rest (split rest) := inductionHypothesis List.not_mem_nil
      cases held with
      | nil => exact .ended List.not_mem_nil (by simp) later
      | cons last earlier =>
        have bareInside : newline ∉ earlier.reverse := by
          rw [List.mem_reverse]
          exact fun member => inside (List.mem_cons_of_mem last member)
        by_cases returns : last = carriageReturn
        · subst returns
          rw [finished, if_pos rfl, List.reverse_cons, List.append_assoc]
          exact .returned bareInside later
        · rw [finished, if_neg returns]
          exact .ended (by rwa [List.mem_reverse]) (by simpa using returns) later
    · rw [splitFrom, if_neg ends]
      have more : newline ∉ byte :: held := by
        simpa [inside] using Ne.symm ends
      simpa using inductionHypothesis more

/-- Every input is cut into lines, and in one way only. -/
theorem cut_iff {bytes : List UInt8} {lines : List (List UInt8)} :
    Cut bytes lines ↔ lines = split bytes := by
  constructor
  · exact Cut.eq_split
  · rintro rfl
    exact cut_splitFrom List.not_mem_nil bytes

/-- One carriage return is dropped, and none at the end of the input. -/
example : split [0x31, 0x0d, 0x0d, 0x0a, 0x0d] = [[0x31, 0x0d], [0x0d]] := by decide

end Reckoner.Lines
