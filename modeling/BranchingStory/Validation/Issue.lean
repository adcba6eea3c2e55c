import BranchingStory.PlayerState
import BranchingStory.Text.Numeral

/-!
# Issues of a story

A story is a graph of dialogues, choices and events. An issue says what is wrong with one
of its nodes, and where; one that is about an id rather than about a record of one kind
speaks of a node. All issues are errors but one: a line that cannot be reached is harmless
and only a warning.
-/

namespace BranchingStory

/-- The kind of node that a message is about. -/
inductive NodeKind where
  | dialogue
  | choice
  | event
  /-- A node of any kind. -/
  | node
  deriving DecidableEq, Repr

/-- The word for a kind. -/
def NodeKind.text : NodeKind → String
  | .dialogue => "dialogue"
  | .choice => "choice"
  | .event => "event"
  | .node => "node"

namespace Validation

/-- How much an issue matters. -/
inductive Severity where
  | warning
  | error
  deriving DecidableEq, Repr

/-- What can be wrong with a node. -/
inductive Problem where
  /-- What follows is no line of the dialogue, not the end and no node. -/
  | danglingNext (target : String)
  /-- No option of the choice is open to the least score. -/
  | unreachableChoice
  /-- No run from the entry comes to the line. -/
  | unreachableLine (index : Nat)
  | unknownEntry (name : String)
  | duplicateLineKey (key : String)
  /-- Nodes of several kinds have the same id. -/
  | duplicateId (kinds : List NodeKind)
  | empty
  | unrecognizedLogic (tag : String)
  | unrecognizedMode (tag : String)
  | invalidTutorialSkip (skip : Int32)
  deriving DecidableEq, Repr

namespace Problem

def severity : Problem → Severity
  | .unreachableLine _ => .warning
  | _ => .error

/-- What is wrong, in words. -/
def text : Problem → String
  | .danglingNext target => s!"next '{target}' does not resolve"
  | .unreachableChoice =>
      "no line is selectable at responsibility " ++
        Text.Numeral.integer leastResponsibility.toInt
  | .unreachableLine index =>
      s!"line {Text.Numeral.natural index} is unreachable from the entry line"
  | .unknownEntry name => s!"entry '{name}' is not a line key"
  | .duplicateLineKey key => s!"line key '{key}' is used twice"
  | .duplicateId kinds =>
      "id shared by " ++ String.intercalate ", " (kinds.map NodeKind.text)
  | .empty => "has no lines"
  | .unrecognizedLogic tag => s!"unrecognized logic '{tag}'"
  | .unrecognizedMode tag => s!"unrecognized execution mode '{tag}'"
  | .invalidTutorialSkip skip =>
      s!"tutorial skip {Text.Numeral.integer skip.toInt} is below -1"

end Problem

/-- One problem of one node, and the line it is about if it is about one. -/
structure Issue where
  kind : NodeKind
  id : String
  line : Option Nat
  problem : Problem
  deriving DecidableEq, Repr

namespace Issue

def severity (issue : Issue) : Severity := issue.problem.severity

def isError (issue : Issue) : Bool := issue.severity == .error

/-- The issue as one line of text. -/
def text (issue : Issue) : String :=
  let line := match issue.line with
    | some index => " line " ++ Text.Numeral.natural index
    | none => ""
  s!"{issue.kind.text} '{issue.id}'{line}: {issue.problem.text}"

end Issue

end Validation

end BranchingStory
