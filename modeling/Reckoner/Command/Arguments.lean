/-!
# Command line arguments

There are two subcommands. `eval` takes one expression and may be asked for the
tree; `repl` reads expressions line by line, may be asked for the tree and to be
strict, and may be given a prompt. Without any arguments the program is a `repl`
with nothing asked for.

An argument that starts with a dash is an option, unless it is a dash alone or
comes after an argument `--`; the first `--` only marks that place. An option's
name stands behind its dashes and ends before the first equals sign. An option
may be given once.

A text after the equals sign belongs to the option, without further equals signs
in front of it. An option that wants a text and has no equals sign takes the next
argument, unless that starts like an option; then the option stays without a
text, which is the same as not giving one. An option that wants no text ignores
the one it gets.
-/

namespace Reckoner.Command

/-- Why arguments are refused. -/
inductive Refusal where
  | unknownCommand (argument : String)
  | unknownOption (argument : String)
  | repeatedOption (name : String)
  | missingExpression
  | extraArgument (argument : String)
deriving DecidableEq, Repr

/-- One line that says what is wrong with the arguments. -/
def Refusal.message : Refusal → String
  | .unknownCommand argument => "no such command: " ++ argument
  | .unknownOption argument => "no such option here: " ++ argument
  | .repeatedOption name => "option given twice: --" ++ name
  | .missingExpression => "no expression given"
  | .extraArgument argument => "one argument too many: " ++ argument

/-- What the program is asked to do. -/
inductive Request where
  | eval (expression : String) (tree : Bool)
  | repl (strict tree : Bool) (prompt : String)
deriving DecidableEq, Repr

/-- The prompt unless another one is given. -/
def defaultPrompt : String := "> "

/-- A repl with nothing asked for. -/
def Request.default : Request := .repl false false defaultPrompt

/-- The options there are. -/
inductive Flag where
  | strict
  | tree
  | prompt
deriving DecidableEq, Repr

/-- An option's name, without dashes. -/
def Flag.name : Flag → String
  | .strict => "strict"
  | .tree => "tree"
  | .prompt => "prompt"

/-- Whether an option has a text of its own. -/
def Flag.hasText : Flag → Bool
  | .prompt => true
  | _ => false

/-- What was collected from the arguments of a subcommand: the options, with a
text where one was given, and the other arguments in order. -/
structure Collected where
  options : List (Flag × Option String)
  positional : List String

namespace Collected

/-- Nothing collected. -/
def empty : Collected := ⟨[], []⟩

/-- Whether an option was given. -/
def has (collected : Collected) (flag : Flag) : Bool :=
  collected.options.any fun option => option.1 = flag

/-- The text given with an option. -/
def text? (collected : Collected) (flag : Flag) : Option String :=
  (collected.options.lookup flag).join

/-- Adds an option that was not given before. -/
def addOption (collected : Collected) (flag : Flag) (text : Option String) :
    Except Refusal Collected :=
  if collected.has flag then .error (.repeatedOption flag.name)
  else .ok { collected with options := collected.options ++ [(flag, text)] }

/-- Adds positional arguments, of which at most `room` are taken in all. -/
def addPositional (collected : Collected) (room : Nat) : List String → Except Refusal Collected
  | [] => .ok collected
  | argument :: later =>
    if collected.positional.length < room then
      addPositional { collected with positional := collected.positional ++ [argument] } room later
    else .error (.extraArgument argument)

end Collected

/-- Whether an argument is an option: it starts with a dash and is not a dash
alone. -/
def isOption (argument : String) : Bool :=
  match argument.toList with
  | '-' :: _ :: _ => true
  | _ => false

/-- The argument that ends the options. It starts like an option. -/
def isEndMark (argument : String) : Bool := argument = "--"

/-- The name in an option. -/
def optionName (argument : String) : String :=
  String.ofList ((argument.toList.dropWhile (· = '-')).takeWhile (· ≠ '='))

/-- The text after the equals sign of an option, if it has one. -/
def ownText? (argument : String) : Option String :=
  match (argument.toList.dropWhile (· = '-')).dropWhile (· ≠ '=') with
  | [] => none
  | _ :: text => some (String.ofList (text.dropWhile (· = '=')))

/-- The flag among `known` that an argument names. One dash is not enough. -/
def flagOf? (known : List Flag) (argument : String) : Option Flag :=
  match argument.toList with
  | '-' :: '-' :: _ => known.find? fun flag => flag.name = optionName argument
  | _ => none

/-- Whether the text of an option is the argument after it. -/
def takesNext (flag : Flag) (argument next : String) : Bool :=
  flag.hasText && (ownText? argument).isNone && !isOption next

/-- Collects a subcommand's arguments: options out of `known`, and at most `room`
others. -/
def collect (known : List Flag) (room : Nat) (collected : Collected) :
    List String → Except Refusal Collected
  | [] => .ok collected
  | argument :: later =>
    if isEndMark argument then collected.addPositional room later
    else if isOption argument then
      match flagOf? known argument, later with
      | none, _ => .error (.unknownOption argument)
      | some flag, [] => collected.addOption flag (ownText? argument)
      | some flag, next :: rest =>
        if takesNext flag argument next then do
          let more ← collected.addOption flag (some next)
          collect known room more rest
        else do
          let more ← collected.addOption flag (ownText? argument)
          collect known room more (next :: rest)
    else do
      let more ← collected.addPositional room [argument]
      collect known room more later

/-- Reads the arguments of `eval`. -/
def readEval (arguments : List String) : Except Refusal Request :=
  match collect [.tree] 1 .empty arguments with
  | .error refusal => .error refusal
  | .ok collected =>
    match collected.positional with
    | [] => .error .missingExpression
    | expression :: _ => .ok (.eval expression (collected.has .tree))

/-- Reads the arguments of `repl`. -/
def readRepl (arguments : List String) : Except Refusal Request :=
  match collect [.strict, .tree, .prompt] 0 .empty arguments with
  | .error refusal => .error refusal
  | .ok collected =>
    .ok (.repl (collected.has .strict) (collected.has .tree)
      ((collected.text? .prompt).getD defaultPrompt))

/-- Reads the arguments of the program. -/
def readArguments : List String → Except Refusal Request
  | [] => .ok .default
  | "eval" :: arguments => readEval arguments
  | "repl" :: arguments => readRepl arguments
  | argument :: later =>
    if isEndMark argument && later.isEmpty then .ok .default
    else .error (.unknownCommand argument)

end Reckoner.Command
