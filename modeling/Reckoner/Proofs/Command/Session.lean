import Reckoner.Command.Session
import Reckoner.Proofs.Calculation.Failure
import Reckoner.Proofs.Calculation.Rereading
import Reckoner.Proofs.Text.Lines

/-!
# Sessions, line by line

A session shows its prompt, answers each line as the program answers it on its own,
and shows its prompt again; white space has no answer. What it does with one line is
the same wherever the line stands, so the output is put together from the lines, up to
the first one that ends the session: one that is no text, or in a strict session one
that has no value.

White space has no value, so a line that is passed over for it hides none.
-/

namespace Reckoner.Command

/-- What a line of text is answered with: nothing if it is white space, else what the
program writes for it as an expression. -/
def answer (tree : Bool) (text : String) : Output :=
  if Blank.isBlankText text then ⟨"", "", 0⟩ else run (.eval text tree) []

/-- What the lines of a session add to the standard output: each answer with a prompt
behind it. -/
def shown (tree : Bool) (prompt : String) (texts : List String) : String :=
  String.join (texts.map fun text => (answer tree text).stdout ++ prompt)

/-- What the lines of a session add to the error output. -/
def reported (tree : Bool) (texts : List String) : String :=
  String.join (texts.map fun text => (answer tree text).stderr)

/-- A line that fails: it is more than white space and has no value. -/
def Fails (text : String) : Prop :=
  Blank.isBlankText text = false ∧ ∃ failure, evaluate text = .error failure

/-- A session goes on after a line of text, unless it is strict and the line fails. -/
def GoesOn (settings : Settings) (text : String) : Prop :=
  settings.strict = true → ¬ Fails text

/-- A session that is not strict goes on after every line of text. -/
theorem goesOn_of_lenient (tree : Bool) (prompt text : String) :
    GoesOn ⟨false, tree, prompt⟩ text := fun strict => nomatch strict

/-- Any session goes on after lines that do not fail. -/
theorem goesOn_of_sound {texts : List String} (sound : ∀ text ∈ texts, ¬ Fails text)
    (settings : Settings) : ∀ text ∈ texts, GoesOn settings text :=
  fun text member _ => sound text member

/-! ### One line -/

/-- What is printed for an expression fails with the expression. -/
theorem render_eq_error_iff {tree : Bool} {text : String} {failure : Failure} :
    render tree text = .error failure ↔ evaluate text = .error failure := by
  cases read : Tree.ofText text with
  | error cause => simp [render, evaluate, read]
  | ok parsed => cases worked : parsed.value <;> simp [render, evaluate, read, worked]

/-- A line with a value is answered with it. -/
theorem answer_of_value {tree : Bool} {text : String} {parsed : Tree} {value : Int}
    (read : Tree.ofText text = .ok parsed) (worked : parsed.value = .ok value) :
    answer tree text =
      ⟨(if tree then parsed.outline else "") ++ Decimal.write value ++ "\n", "", 0⟩ := by
  cases blank : Blank.isBlankText text with
  | true =>
    obtain ⟨failure, failed⟩ := exists_failure_of_blank blank
    simp [evaluate, read, worked] at failed
  | false => simp [answer, blank, run, runEval, render, read, worked]

/-- A line that fails is answered with its error. -/
theorem answer_of_failure {tree : Bool} {text : String} {failure : Failure}
    (occupied : Blank.isBlankText text = false) (failed : evaluate text = .error failure) :
    answer tree text = ⟨"", errorLine failure, 1⟩ := by
  rw [answer, occupied, if_neg Bool.false_ne_true, run, runEval,
    render_eq_error_iff.mpr failed]

/-- A session that goes on answers the line and shows its prompt. -/
theorem replyToText_of_goesOn {settings : Settings} {text : String}
    (goesOn : GoesOn settings text) :
    replyToText settings text =
      ⟨(answer settings.tree text).stdout ++ settings.prompt,
        (answer settings.tree text).stderr, true⟩ := by
  rw [replyToText, answer]
  cases blank : Blank.isBlankText text with
  | true => simp
  | false =>
    rw [if_neg Bool.false_ne_true, if_neg Bool.false_ne_true, run, runEval]
    cases rendered : render settings.tree text with
    | ok result => rfl
    | error failure =>
      have lenient : ¬ settings.strict = true := fun strict =>
        goesOn strict ⟨blank, failure, render_eq_error_iff.mp rendered⟩
      simp [lenient]

/-- A strict session reports a line that fails and ends there. -/
theorem replyToText_of_failure {settings : Settings} {text : String} {failure : Failure}
    (strict : settings.strict = true) (occupied : Blank.isBlankText text = false)
    (failed : evaluate text = .error failure) :
    replyToText settings text = ⟨"", errorLine failure, false⟩ := by
  rw [replyToText, occupied, if_neg Bool.false_ne_true, render_eq_error_iff.mpr failed]
  exact if_pos strict

/-- A line with the bytes of a text is answered like the text. -/
theorem replyTo_bytesOf (settings : Settings) (text : String) :
    replyTo settings (bytesOf text) = replyToText settings text := by
  rw [replyTo, fromUTF8?_eq_some_iff.mpr rfl]

/-- A line that is not the bytes of a text ends any session. -/
theorem replyTo_of_undecodable (settings : Settings) {line : List UInt8}
    (undecodable : ∀ text, bytesOf text ≠ line) :
    replyTo settings line = ⟨"", undecodableLine, false⟩ := by
  rw [replyTo]
  cases decoded : String.fromUTF8? (ByteArray.mk line.toArray) with
  | none => rfl
  | some text => exact absurd (fromUTF8?_eq_some_iff.mp decoded) (undecodable text)

/-! ### All lines -/

/-- A session answers the lines that it goes on after one by one, and what it does with
the rest does not depend on them. -/
theorem runLines_append {settings : Settings} {texts : List String}
    (goesOn : ∀ text ∈ texts, GoesOn settings text) (rest : List (List UInt8)) :
    runLines settings (texts.map bytesOf ++ rest) =
      ⟨shown settings.tree settings.prompt texts ++ (runLines settings rest).stdout,
        reported settings.tree texts ++ (runLines settings rest).stderr,
        (runLines settings rest).code⟩ := by
  induction texts with
  | nil => simp [shown, reported]
  | cons text texts inductionHypothesis =>
    obtain ⟨here, goesOn⟩ := List.forall_mem_cons.mp goesOn
    rw [List.map_cons, List.cons_append, runLines, replyTo_bytesOf, replyToText_of_goesOn here,
      inductionHypothesis goesOn]
    simp [shown, reported, String.append_assoc]

/-- A line that is no text is reported as such, and the session ends there. What follows it
is not read. -/
theorem runLines_of_undecodable (settings : Settings) {line : List UInt8}
    (undecodable : ∀ text, bytesOf text ≠ line) (later : List (List UInt8)) :
    runLines settings (line :: later) = ⟨"", undecodableLine, 1⟩ := by
  rw [runLines, replyTo_of_undecodable settings undecodable]
  rfl

/-- A strict session reports a line that fails and ends there, and what follows it is not
read. -/
theorem runLines_of_failure {settings : Settings} {text : String} {failure : Failure}
    (strict : settings.strict = true) (occupied : Blank.isBlankText text = false)
    (failed : evaluate text = .error failure) (later : List (List UInt8)) :
    runLines settings (bytesOf text :: later) = ⟨"", errorLine failure, 1⟩ := by
  rw [runLines, replyTo_bytesOf, replyToText_of_failure strict occupied failed]
  rfl

/-- A session on an input whose lines begin with some that it goes on after. -/
theorem run_of_cut {settings : Settings} {input : List UInt8} {texts : List String}
    {rest : List (List UInt8)} (cut : Lines.Cut input (texts.map bytesOf ++ rest))
    (goesOn : ∀ text ∈ texts, GoesOn settings text) :
    run (.repl settings.strict settings.tree settings.prompt) input =
      ⟨settings.prompt ++ shown settings.tree settings.prompt texts ++ (runLines settings rest).stdout,
        reported settings.tree texts ++ (runLines settings rest).stderr,
        (runLines settings rest).code⟩ := by
  rw [run, runRepl, ← cut.eq_split, runLines_append goesOn, String.append_assoc]

/-- Lines are texts with some property, up to the first one that is not: it is no text,
or a text without the property. -/
theorem exists_texts (lines : List (List UInt8)) (property : String → Prop) :
    ∃ (texts : List String) (rest : List (List UInt8)), lines = texts.map bytesOf ++ rest ∧
      (∀ text ∈ texts, property text) ∧
      (rest = [] ∨ ∃ line later, rest = line :: later ∧
        ∀ text, bytesOf text = line → ¬ property text) := by
  induction lines with
  | nil => exact ⟨[], [], rfl, fun _ member => absurd member List.not_mem_nil, .inl rfl⟩
  | cons line later inductionHypothesis =>
    by_cases found : ∃ text, bytesOf text = line ∧ property text
    · obtain ⟨text, rfl, holds⟩ := found
      obtain ⟨texts, rest, rfl, all, first⟩ := inductionHypothesis
      exact ⟨text :: texts, rest, rfl, List.forall_mem_cons.mpr ⟨holds, all⟩, first⟩
    · refine ⟨[], line :: later, rfl, fun _ member => absurd member List.not_mem_nil,
        .inr ⟨line, later, rfl, fun text spelled holds => found ⟨text, spelled, holds⟩⟩⟩

end Reckoner.Command
