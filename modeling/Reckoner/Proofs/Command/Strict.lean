import Reckoner.Proofs.Calculation.Message
import Reckoner.Proofs.Command.Session

/-!
# Strict sessions

A strict session differs from one that is not only where a line fails. It is that
session cut off at the first such line: the error of the line is the last thing it
writes, without a prompt behind it, and nothing that follows in the input has any
bearing on it.
-/

namespace Reckoner.Command

/-- A text that is one whole line. -/
def IsLine (text : String) : Prop := ∃ content, text = content ++ "\n" ∧ '\n' ∉ content.toList

/-- The error for a line stays on a line of its own, whatever the line has in it. -/
theorem isLine_errorLine {text : String} {failure : Failure}
    (failed : evaluate text = .error failure) : IsLine (errorLine failure) := by
  refine ⟨"error: " ++ failure.message, rfl, newline_not_mem ?_⟩
  rw [isPrintable_append, Failure.isPrintable_message failed]
  rfl

/-- What lines in two parts add to the standard output is what the first part adds and then
what the second does. -/
theorem shown_append (tree : Bool) (prompt : String) (texts later : List String) :
    shown tree prompt (texts ++ later) = shown tree prompt texts ++ shown tree prompt later := by
  rw [shown, List.map_append, String.join_append]
  rfl

/-- What lines in two parts add to the error output is what the first part adds and then
what the second does. -/
theorem reported_append (tree : Bool) (texts later : List String) :
    reported tree (texts ++ later) = reported tree texts ++ reported tree later := by
  rw [reported, List.map_append, String.join_append]
  rfl

/-- A line that does not fail is answered without an error. -/
theorem stderr_answer {text : String} (sound : ¬ Fails text) (tree : Bool) :
    (answer tree text).stderr = "" := by
  cases blank : Blank.isBlankText text with
  | true => simp [answer, blank]
  | false =>
    cases read : Tree.ofText text with
    | error cause =>
      have failed := evaluate_eq_error_iff.mpr ⟨cause, read, rfl⟩
      exact absurd ⟨blank, _, failed⟩ sound
    | ok parsed =>
      obtain ⟨_, value, worked⟩ := Tree.readable_of_ofText read
      rw [answer_of_value read worked]

/-- Lines that do not fail add nothing to the error output. -/
theorem reported_of_sound {texts : List String} (sound : ∀ text ∈ texts, ¬ Fails text)
    (tree : Bool) : reported tree texts = "" := by
  induction texts with
  | nil => rfl
  | cons text texts inductionHypothesis =>
    obtain ⟨here, sound⟩ := List.forall_mem_cons.mp sound
    have later : String.join _ = "" := inductionHypothesis sound
    rw [reported, List.map_cons, String.join_cons, later, stderr_answer here,
      String.empty_append]

section FirstFailure

variable {input : List UInt8} {texts : List String} {text : String} {failure : Failure}
  {later : List (List UInt8)}
  (cut : Lines.Cut input (texts.map bytesOf ++ bytesOf text :: later))
  (sound : ∀ earlier ∈ texts, ¬ Fails earlier) (occupied : Blank.isBlankText text = false)
  (failed : evaluate text = .error failure) (tree : Bool) (prompt : String)

include cut sound occupied failed

/-- A strict session ends at the first line that fails. -/
theorem run_strict_of_failure :
    run (.repl true tree prompt) input =
      ⟨prompt ++ shown tree prompt texts, errorLine failure, 1⟩ := by
  rw [run_of_cut cut (goesOn_of_sound sound ⟨true, tree, prompt⟩),
    runLines_of_failure rfl occupied failed, reported_of_sound sound, String.append_empty,
    String.empty_append]

/-- A session that is not strict goes on with a prompt behind the first line that
fails. -/
theorem run_lenient_of_failure :
    ∃ rest : Output, run (.repl false tree prompt) input =
      ⟨prompt ++ shown tree prompt texts ++ prompt ++ rest.stdout,
        errorLine failure ++ rest.stderr, rest.code⟩ := by
  have goesOn : ∀ other ∈ texts ++ [text], GoesOn ⟨false, tree, prompt⟩ other :=
    fun other _ => goesOn_of_lenient tree prompt other
  have regrouped : texts.map bytesOf ++ bytesOf text :: later =
      (texts ++ [text]).map bytesOf ++ later := by simp
  rw [regrouped] at cut
  refine ⟨runLines ⟨false, tree, prompt⟩ later, ?_⟩
  rw [run_of_cut cut goesOn, shown_append, reported_append, reported_of_sound sound]
  simp [shown, reported, answer_of_failure occupied failed, String.append_assoc]

end FirstFailure

/-- A strict session is the session that is not strict, up to the first line that fails.

Without such a line in front of the first one that is no text, the two are the same.
With one, the strict session ends at it: of the standard output it has what comes
before the answer, up to the prompt, of the error output the first line, which is the
error of the line that failed, and its exit code is 1. What follows in the input can
be anything. -/
theorem strict_session_cut_off (tree : Bool) (prompt : String) (input : List UInt8) :
    (∀ (texts : List String) (rest : List (List UInt8)),
      Lines.Cut input (texts.map bytesOf ++ rest) → (∀ text ∈ texts, ¬ Fails text) →
      (rest = [] ∨ ∃ line later, rest = line :: later ∧ ∀ text, bytesOf text ≠ line) →
      run (.repl true tree prompt) input = run (.repl false tree prompt) input) ∧
    (∀ (texts : List String) (text : String) (failure : Failure) (later : List (List UInt8)),
      Lines.Cut input (texts.map bytesOf ++ bytesOf text :: later) →
      (∀ earlier ∈ texts, ¬ Fails earlier) →
      Blank.isBlankText text = false → evaluate text = .error failure →
      run (.repl true tree prompt) input =
        ⟨prompt ++ shown tree prompt texts, errorLine failure, 1⟩ ∧
      (∃ more, (run (.repl false tree prompt) input).stdout =
        prompt ++ shown tree prompt texts ++ prompt ++ more) ∧
      (∃ more, (run (.repl false tree prompt) input).stderr = errorLine failure ++ more) ∧
      IsLine (errorLine failure) ∧
      ∀ other following, Lines.Cut other (texts.map bytesOf ++ bytesOf text :: following) →
        run (.repl true tree prompt) other = run (.repl true tree prompt) input) ∧
    ∃ (texts : List String) (rest : List (List UInt8)),
      Lines.Cut input (texts.map bytesOf ++ rest) ∧ (∀ text ∈ texts, ¬ Fails text) ∧
      (rest = [] ∨ ∃ line later, rest = line :: later ∧
        ((∀ text, bytesOf text ≠ line) ∨ ∃ text, bytesOf text = line ∧ Fails text)) := by
  refine ⟨?_, ?_, ?_⟩
  · intro texts rest cut sound ended
    have same : runLines ⟨true, tree, prompt⟩ rest = runLines ⟨false, tree, prompt⟩ rest := by
      rcases ended with rfl | ⟨line, later, rfl, undecodable⟩
      · rfl
      · rw [runLines_of_undecodable _ undecodable, runLines_of_undecodable _ undecodable]
    rw [run_of_cut cut (goesOn_of_sound sound ⟨true, tree, prompt⟩),
      run_of_cut cut (goesOn_of_sound sound ⟨false, tree, prompt⟩), same]
  · intro texts text failure later cut sound occupied failed
    have strict := run_strict_of_failure cut sound occupied failed tree prompt
    obtain ⟨behind, lenient⟩ := run_lenient_of_failure cut sound occupied failed tree prompt
    refine ⟨strict, ⟨behind.stdout, by rw [lenient]⟩, ⟨behind.stderr, by rw [lenient]⟩,
      isLine_errorLine failed, fun other following replaced => ?_⟩
    rw [strict, run_strict_of_failure replaced sound occupied failed]
  · obtain ⟨texts, rest, split, sound, first⟩ :=
      exists_texts (Lines.split input) fun text => ¬ Fails text
    refine ⟨texts, rest, Lines.cut_iff.mpr split.symm, sound, ?_⟩
    rcases first with rfl | ⟨line, later, rfl, ends⟩
    · exact .inl rfl
    · refine .inr ⟨line, later, rfl, ?_⟩
      by_cases decodable : ∃ text, bytesOf text = line
      · obtain ⟨text, spelled⟩ := decodable
        exact .inr ⟨text, spelled, not_not.mp (ends text spelled)⟩
      · exact .inl (not_exists.mp decodable)

/-- The strict session does not get to the line behind the one that fails, where it would
fail again, nor to the last one, which is not UTF-8. -/
theorem strict_session_of_two_failures :
    run (.repl true false "> ") [0x28, 0x31, 0x29, 0x0a, 0x2b, 0x0a, 0x2d, 0x0a, 0xff] =
      ⟨"> 1\n> ", "error: unexpected token \"+\" at 0\n", 1⟩ ∧
    ∃ more, (run (.repl false false "> ")
      [0x28, 0x31, 0x29, 0x0a, 0x2b, 0x0a, 0x2d, 0x0a, 0xff]).stdout = "> 1\n> > " ++ more := by
  have one : bytesOf "(1)" = [0x28, 0x31, 0x29] := fromUTF8?_eq_some_iff.mp rfl
  have plus : bytesOf "+" = [0x2b] := fromUTF8?_eq_some_iff.mp rfl
  have cut : Lines.Cut [0x28, 0x31, 0x29, 0x0a, 0x2b, 0x0a, 0x2d, 0x0a, 0xff]
      (["(1)"].map bytesOf ++ bytesOf "+" :: [[0x2d], [0xff]]) := by
    rw [List.map_singleton, one, plus]
    exact Lines.cut_iff.mpr rfl
  let group : Tree := .node .group [.number "1"]
  have readable : group.Readable := ⟨rfl, 1, rfl⟩
  have value : answer false "(1)" = ⟨"1\n", "", 0⟩ := answer_of_value readable.reread rfl
  have sound : ¬ Fails "(1)" := by
    rintro ⟨_, failure, failed⟩
    obtain ⟨cause, unread, _⟩ := evaluate_eq_error_iff.mp failed
    cases readable.reread.symm.trans unread
  have law := (strict_session_cut_off false "> " _).2.1 _ _ _ _ cut
    (List.forall_mem_singleton.mpr sound) rfl (evaluate_sign .add)
  have before : "> " ++ shown false "> " ["(1)"] = "> 1\n> " := by
    rw [shown, List.map_singleton, value]
    rfl
  rw [before] at law
  exact ⟨law.1, law.2.1⟩

end Reckoner.Command
