import Reckoner.Command.Session
import Reckoner.Proofs.Text.Lines

/-!
# Ends of lines

The same lines can be written down in many ways: each may end with a newline or with a
carriage return and a newline, and the last one may just stop. A session does not tell
them apart. For each line it is a matter of that line alone which way it ends, so an
input may mix them.

Two things have to be excluded. A line that ends with a carriage return of its own would
lose it, or keep it, depending on what ends the line; and an empty line that just stops
is no line at all.
-/

namespace Reckoner.Lines

/-- Bytes that write down the given lines. Each line ends with a newline, with or without
a carriage return in front of it, and the last one may end with nothing if it is not
empty. -/
inductive Written : List (List UInt8) → List UInt8 → Prop where
  | nothing : Written [] []
  | unended {line : List UInt8} (occupied : line ≠ []) : Written [line] line
  | ended (line : List UInt8) {rest : List UInt8} {later : List (List UInt8)}
      (written : Written later rest) : Written (line :: later) (line ++ newline :: rest)
  | returned (line : List UInt8) {rest : List UInt8} {later : List (List UInt8)}
      (written : Written later rest) :
      Written (line :: later) (line ++ carriageReturn :: newline :: rest)

/-- A line without a newline in it and without a carriage return at its end. -/
def IsBare (line : List UInt8) : Prop :=
  newline ∉ line ∧ line.getLast? ≠ some carriageReturn

/-- Whether a line is bare can be seen from its bytes. -/
instance (line : List UInt8) : Decidable (IsBare line) := inferInstanceAs (Decidable (_ ∧ _))

/-- However bare lines are written down, they are found again.

Proof: induction on the way they are written. Behind a newline the rest is written like
the whole. -/
theorem Written.cut {lines : List (List UInt8)} {bytes : List UInt8}
    (written : Written lines bytes) (bare : ∀ line ∈ lines, IsBare line) : Cut bytes lines := by
  induction written with
  | nothing => exact .nothing
  | unended occupied =>
    have inside := List.forall_mem_singleton.mp bare
    exact .unended occupied inside.1
  | ended line _ inductionHypothesis =>
    obtain ⟨⟨inside, last⟩, later⟩ := List.forall_mem_cons.mp bare
    exact .ended inside last (inductionHypothesis later)
  | returned line _ inductionHypothesis =>
    obtain ⟨⟨inside, _⟩, later⟩ := List.forall_mem_cons.mp bare
    exact .returned inside (inductionHypothesis later)

end Reckoner.Lines

namespace Reckoner.Command

/-- A session depends on its lines and not on what ends them. Two inputs that write down
the same bare lines have just these lines, and they get the same output, the same errors
and the same exit code. The lines may be blank, fail or be no text. -/
theorem session_ignores_endings (strict tree : Bool) (prompt : String)
    (lines : List (List UInt8)) (bare : ∀ line ∈ lines, Lines.IsBare line)
    (input other : List UInt8) (written : Lines.Written lines input)
    (rewritten : Lines.Written lines other) :
    Lines.Cut input lines ∧ Lines.Cut other lines ∧
      run (.repl strict tree prompt) input = run (.repl strict tree prompt) other := by
  have cut := written.cut bare
  have recut := rewritten.cut bare
  have same : Lines.split input = Lines.split other := cut.eq_split.symm.trans recut.eq_split
  refine ⟨cut, recut, ?_⟩
  simp only [run, runRepl, same]

/-- A value, an empty line, a line that fails and a last line that is no text, with the
two ways to end a line exchanged and the last one left open. -/
theorem endings_exchanged :
    Lines.Cut [0x31, 0x0a, 0x0d, 0x0a, 0x2b, 0x0a, 0xff, 0x0d, 0x0a] [[0x31], [], [0x2b], [0xff]] ∧
    Lines.Cut [0x31, 0x0d, 0x0a, 0x0a, 0x2b, 0x0d, 0x0a, 0xff] [[0x31], [], [0x2b], [0xff]] ∧
    run (.repl false true "> ") [0x31, 0x0a, 0x0d, 0x0a, 0x2b, 0x0a, 0xff, 0x0d, 0x0a] =
      run (.repl false true "> ") [0x31, 0x0d, 0x0a, 0x0a, 0x2b, 0x0d, 0x0a, 0xff] :=
  session_ignores_endings false true "> " [[0x31], [], [0x2b], [0xff]] (by decide) _ _
    (.ended [0x31] (.returned [] (.ended [0x2b] (.returned [0xff] .nothing))))
    (.returned [0x31] (.ended [] (.returned [0x2b] (.unended (by decide)))))

end Reckoner.Command
