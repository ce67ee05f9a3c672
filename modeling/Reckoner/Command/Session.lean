import Reckoner.Calculation
import Reckoner.Command.Arguments
import Reckoner.Text.Blank
import Reckoner.Text.Lines

/-!
# Sessions of the program

What the program writes depends on its request and on the bytes of its input
alone. A repl writes its prompt, then answers each line and writes the prompt
again. A line of white space has no answer. A line that fails is answered with an
error, which ends a strict repl; a line that is not UTF-8 ends every repl. At the
end of the input a newline follows the last prompt.

A repl goes from line to line without remembering anything. `replyTo` is what it
does with one line, and `Reply.goesOn` says whether there is a next one.
-/

namespace Reckoner.Command

/-- What the program has written, and its exit code. -/
structure Output where
  stdout : String
  stderr : String
  code : Nat
deriving DecidableEq, Repr

/-- The settings of a repl. -/
structure Settings where
  strict : Bool
  tree : Bool
  prompt : String
deriving DecidableEq, Repr

/-- The result of an expression as it is printed, after the outline of its tree
if that was asked for. -/
def render (tree : Bool) (text : String) : Except Failure String :=
  match Tree.ofText text with
  | .error cause => .error (.unreadable cause)
  | .ok parsed =>
    match parsed.value with
    | .error cause => .error (.noValue cause)
    | .ok value => .ok ((if tree then parsed.outline else "") ++ Decimal.write value)

/-- The line on the error output for an expression that failed. -/
def errorLine (failure : Failure) : String := "error: " ++ failure.message ++ "\n"

/-- The line on the error output for input that is not UTF-8. -/
def undecodableLine : String := "error reading input: stream did not contain valid UTF-8\n"

/-- The whole output for one expression. -/
def runEval (tree : Bool) (expression : String) : Output :=
  match render tree expression with
  | .ok text => ⟨text ++ "\n", "", 0⟩
  | .error failure => ⟨"", errorLine failure, 1⟩

/-- What a repl writes for one line, and whether it goes on after it. -/
structure Reply where
  stdout : String
  stderr : String
  goesOn : Bool
deriving DecidableEq, Repr

/-- The reply to a line of text. -/
def replyToText (settings : Settings) (text : String) : Reply :=
  if Blank.isBlankText text then ⟨settings.prompt, "", true⟩
  else
    match render settings.tree text with
    | .ok result => ⟨result ++ "\n" ++ settings.prompt, "", true⟩
    | .error failure =>
      if settings.strict then ⟨"", errorLine failure, false⟩
      else ⟨settings.prompt, errorLine failure, true⟩

/-- The reply to a line of bytes. -/
def replyTo (settings : Settings) (line : List UInt8) : Reply :=
  match String.fromUTF8? (ByteArray.mk line.toArray) with
  | some text => replyToText settings text
  | none => ⟨"", undecodableLine, false⟩

/-- Answers lines until one ends the repl or none is left. -/
def runLines (settings : Settings) : List (List UInt8) → Output
  | [] => ⟨"\n", "", 0⟩
  | line :: later =>
    let reply := replyTo settings line
    if reply.goesOn then
      let rest := runLines settings later
      ⟨reply.stdout ++ rest.stdout, reply.stderr ++ rest.stderr, rest.code⟩
    else ⟨reply.stdout, reply.stderr, 1⟩

/-- The whole output of a repl on the bytes of its input. -/
def runRepl (settings : Settings) (input : List UInt8) : Output :=
  let output := runLines settings (Lines.split input)
  { output with stdout := settings.prompt ++ output.stdout }

/-- The whole output of the program. -/
def run (request : Request) (input : List UInt8) : Output :=
  match request with
  | .eval expression tree => runEval tree expression
  | .repl strict tree prompt => runRepl ⟨strict, tree, prompt⟩ input

end Reckoner.Command
