import Reckoner.Calculation
import Reckoner.Tree.Numbering

/-!
# A workshop of named trees

A workshop keeps trees under names. Jobs put trees in, grow them from each
other, and ask about them. A tree that is used to grow another is copied as it
stood before the job, so a tree can also be pushed into itself.

A job that names a tree the workshop does not have is answered with that name and
changes nothing.
-/

namespace Reckoner

namespace Tree

/-- The positions of all pairs of the same children of the root, the earlier
child first. -/
def samePairs (tree : Tree) : List (Nat × Nat) :=
  let numbered := tree.children.zipIdx
  numbered.flatMap fun (child, index) =>
    numbered.filterMap fun (other, otherIndex) =>
      if index < otherIndex && child.same other then some (index, otherIndex) else none

end Tree

/-- The trees in a workshop by name, the latest first. A name stands once. -/
structure Workshop where
  trees : List (String × Tree)

namespace Workshop

/-- Something to do with named trees. -/
inductive Job where
  | keep (target : String) (tree : Tree)
  | parse (target text : String)
  | copy (source target : String)
  | push (target source : String)
  | extend (target source : String)
  | groupOf (target : String) (sources : List String)
  | text (of : String)
  | outline (of : String)
  | slots (of : String)
  | describe (of : String)
  | describeRoot (of : String)
  | children (of : String)
  | same (left right : String)
  | samePairs (of : String)
  | value (of : String)

/-- What a job is answered with. -/
inductive Answer where
  | done
  | number (value : Nat)
  | truth (value : Bool)
  | text (value : String)
  | texts (values : List String)
  | slots (rows : List Tree.Slot)
  | pairs (values : List (Nat × Nat))
  | value (value : Int)
  | unreadable (cause : ReadError)
  | noValue (cause : EvalError)
  | unknown (name : String)

/-- A workshop without trees. -/
def empty : Workshop := ⟨[]⟩

/-- The tree under a name. -/
def get? (workshop : Workshop) (name : String) : Option Tree := workshop.trees.lookup name

/-- Puts a tree under a name, in place of the one that was there. -/
def put (workshop : Workshop) (name : String) (tree : Tree) : Workshop :=
  ⟨(name, tree) :: workshop.trees.filter fun entry => entry.1 ≠ name⟩

/-- Answers a question about one tree. -/
def ask (workshop : Workshop) (name : String) (question : Tree → Answer) : Answer × Workshop :=
  match workshop.get? name with
  | some tree => (question tree, workshop)
  | none => (.unknown name, workshop)

/-- Replaces the tree `target` by what `grow` makes of it and the tree `source`. -/
def growWith (workshop : Workshop) (target source : String) (grow : Tree → Tree → Tree)
    (answer : Tree → Answer) : Answer × Workshop :=
  match workshop.get? target, workshop.get? source with
  | some tree, some other =>
    let grown := grow tree other
    (answer grown, workshop.put target grown)
  | none, _ => (.unknown target, workshop)
  | _, none => (.unknown source, workshop)

/-- Does one job. A push is answered with the number of the new child. -/
def perform (workshop : Workshop) : Job → Answer × Workshop
  | .keep target tree => (.done, workshop.put target tree)
  | .parse target text =>
    match Tree.ofText text with
    | .ok tree => (.done, workshop.put target tree)
    | .error cause => (.unreadable cause, workshop)
  | .copy source target =>
    match workshop.get? source with
    | some tree => (.done, workshop.put target tree)
    | none => (.unknown source, workshop)
  | .push target source =>
    workshop.growWith target source Tree.push fun grown => .number (grown.lastChildNumber?.getD 0)
  | .extend target source => workshop.growWith target source Tree.extend fun _ => .done
  | .groupOf target sources =>
    match sources.find? fun name => (workshop.get? name).isNone with
    | some name => (.unknown name, workshop)
    | none => (.done, workshop.put target (Tree.groupOf (sources.filterMap workshop.get?)))
  | .text of => workshop.ask of fun tree => .text tree.text
  | .outline of => workshop.ask of fun tree => .text tree.outline
  | .slots of => workshop.ask of fun tree => .slots tree.slots
  | .describe of => workshop.ask of fun tree => .text tree.describe
  | .describeRoot of => workshop.ask of fun tree => .text tree.describeRoot
  | .children of => workshop.ask of fun tree => .texts (tree.children.map Tree.text)
  | .same left right =>
    match workshop.get? left, workshop.get? right with
    | some tree, some other => (.truth (tree.same other), workshop)
    | none, _ => (.unknown left, workshop)
    | _, none => (.unknown right, workshop)
  | .samePairs of => workshop.ask of fun tree => .pairs tree.samePairs
  | .value of =>
    workshop.ask of fun tree =>
      match tree.value with
      | .ok value => .value value
      | .error cause => .noValue cause

/-- Does jobs in order; gives the answers and the workshop after the last job. -/
def performAll (workshop : Workshop) : List Job → List Answer × Workshop
  | [] => ([], workshop)
  | job :: later =>
    let (answer, after) := workshop.perform job
    let (answers, last) := after.performAll later
    (answer :: answers, last)

end Workshop

end Reckoner
