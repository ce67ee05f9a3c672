import Reckoner.Command.Session

/-!
# The program

The outer layer: it hands arguments and lines to the functions that decide what
to write, and writes it. A repl is answered line by line as the lines arrive, and
writes the same as a run on the whole input at once.
-/

namespace Reckoner.Main

open Reckoner.Command

/-- Reads up to the end of a line or of the input. The newline is included. -/
partial def readChunk (stdin : IO.FS.Stream) (held : ByteArray) : IO ByteArray := do
  let byte ← stdin.read 1
  if byte.isEmpty then return held
  else if byte.toList = [Lines.newline] then return held ++ byte
  else readChunk stdin (held ++ byte)

/-- Writes an output. -/
def write (output : Output) : IO UInt32 := do
  let stdout ← IO.getStdout
  let stderr ← IO.getStderr
  stdout.putStr output.stdout
  stdout.flush
  stderr.putStr output.stderr
  return output.code.toUInt32

/-- Answers lines as they arrive, until one ends the repl or none is left. -/
partial def answerLines (settings : Settings) (stdin : IO.FS.Stream) : IO UInt32 := do
  let chunk ← readChunk stdin .empty
  match Lines.split chunk.toList with
  | [] => write (runLines settings [])
  | line :: _ =>
    let reply := replyTo settings line
    let code ← write ⟨reply.stdout, reply.stderr, if reply.goesOn then 0 else 1⟩
    if reply.goesOn then answerLines settings stdin else return code

/-- Does what the arguments ask for. -/
def start (arguments : List String) : IO UInt32 := do
  match readArguments arguments with
  | .error refusal => write ⟨"", "error: " ++ refusal.message ++ "\n", 1⟩
  | .ok (.eval expression tree) => write (runEval tree expression)
  | .ok (.repl strict tree prompt) =>
    let _ ← write ⟨prompt, "", 0⟩
    answerLines ⟨strict, tree, prompt⟩ (← IO.getStdin)

end Reckoner.Main

/-- The entry point. -/
def main (arguments : List String) : IO UInt32 := Reckoner.Main.start arguments
