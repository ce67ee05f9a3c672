import Reckoner.Grammar.Parse
import Reckoner.Token.Scan
import Reckoner.Tree.Text
import Reckoner.Tree.Value

/-!
# From text to value

A text is scanned into tokens, the tokens are parsed into a tree, and the tree
has a value. Each stage looks at everything the one before it found, so a fault
of an earlier stage hides all faults of a later one, wherever in the text they
stand.
-/

namespace Reckoner

/-- Why a text has no tree. -/
inductive ReadError where
  | lexical (cause : ScanError)
  | grammatical (cause : ParseError)
deriving DecidableEq, Repr, Inhabited

/-- The message of the cause. -/
def ReadError.message : ReadError → String
  | .lexical cause => cause.message
  | .grammatical cause => cause.message

/-- Why a text has no value. -/
inductive Failure where
  | unreadable (cause : ReadError)
  | noValue (cause : EvalError)
deriving DecidableEq, Repr, Inhabited

/-- The message of the cause. -/
def Failure.message : Failure → String
  | .unreadable cause => cause.message
  | .noValue cause => cause.message

namespace Tree

/-- The tree of an expression given as bytes. -/
def ofBytes (bytes : List UInt8) : Except ReadError Tree :=
  match tokenize bytes with
  | .error cause => .error (.lexical cause)
  | .ok tokens =>
    match ofTokens tokens with
    | .error cause => .error (.grammatical cause)
    | .ok tree => .ok tree

/-- The tree of an expression given as text. -/
def ofText (text : String) : Except ReadError Tree := ofBytes (bytesOf text)

end Tree

/-- The value of an expression given as text. -/
def evaluate (text : String) : Except Failure Int :=
  match Tree.ofText text with
  | .error cause => .error (.unreadable cause)
  | .ok tree =>
    match tree.value with
    | .error cause => .error (.noValue cause)
    | .ok value => .ok value

end Reckoner
