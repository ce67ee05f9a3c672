import Reckoner.Cursor.Session
import Reckoner.Log
import Reckoner.Main
import Reckoner.Tree.Workshop
import Reckoner.Proofs.Text.Bytes
import Reckoner.Proofs.Text.Lines
import Reckoner.Proofs.Token.Spelling
import Reckoner.Proofs.Text.Printable
import Reckoner.Proofs.Text.Numeral
import Reckoner.Proofs.Token.Concatenation
import Reckoner.Proofs.Token.Layout
import Reckoner.Proofs.Token.Offsets
import Reckoner.Proofs.Token.Foreign
import Reckoner.Proofs.Token.Seam
import Reckoner.Proofs.Grammar.Run
import Reckoner.Proofs.Grammar.Language
import Reckoner.Proofs.Grammar.Acceptance
import Reckoner.Proofs.Grammar.Expectation
import Reckoner.Proofs.Grammar.Rejection
import Reckoner.Proofs.Grammar.OrderedChoice
import Reckoner.Proofs.Grammar.Backtracking
import Reckoner.Proofs.Tree.Faults
import Reckoner.Proofs.Tree.Survey
import Reckoner.Proofs.Tree.Printing
import Reckoner.Proofs.Tree.Shape
import Reckoner.Proofs.Tree.Placement
import Reckoner.Proofs.Tree.Arena
import Reckoner.Proofs.Tree.Construction
import Reckoner.Proofs.Tree.Copies
import Reckoner.Proofs.SignedSum.Pass
import Reckoner.Proofs.SignedSum.Positions
import Reckoner.Proofs.Calculation.Value
import Reckoner.Proofs.Calculation.Agreement
import Reckoner.Proofs.Calculation.Rereading
import Reckoner.Proofs.Grammar.Numbering
import Reckoner.Proofs.Log.Accepted
import Reckoner.Proofs.Log.Rejected
import Reckoner.Proofs.Calculation.Failure
import Reckoner.Proofs.Calculation.Message
import Reckoner.Proofs.Command.Session
import Reckoner.Proofs.Command.Strict
import Reckoner.Proofs.Calculation.Composition
import Reckoner.Proofs.Tree.Context
import Reckoner.Proofs.Tree.Outline
import Reckoner.Proofs.Tree.Sameness
import Reckoner.Proofs.Grammar.Locality
import Reckoner.Proofs.Command.Printed
import Reckoner.Proofs.Command.Endings
import Reckoner.Proofs.Cursor.Session
import Reckoner.Proofs.Grammar.Journal
import Reckoner.Proofs.Grammar.Rewinding
import Reckoner.Proofs.Grammar.Nesting
