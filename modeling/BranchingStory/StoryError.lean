import BranchingStory.Files.Access
import BranchingStory.Notation.Fault
import BranchingStory.Validation.Issue

/-!
# Errors of loading and playing a story

Each error names its cause and what it is about. A misstep is a call that the present
position does not allow.
-/

namespace BranchingStory

/-- A call that the present position does not allow. -/
inductive Misstep where
  | noEntryLine (dialogue : String)
  | lineOutOfRange (index : Nat) (dialogue : String) (count : Nat)
  | alreadyCompleted (dialogue : String)
  | advanceOutsideDialogue
  | chooseOutsideChoice
  /-- A saved position that is none: a dialogue without a line, or a node of another
  kind than the position says. -/
  | notResumable (kind : NodeKind) (id : String)
  deriving DecidableEq, Repr

/-- What was wrong with the call, in words. -/
def Misstep.message : Misstep → String
  | .noEntryLine dialogue => s!"dialogue '{dialogue}' has no entry line"
  | .lineOutOfRange index dialogue count =>
      s!"line {Text.Numeral.natural index} out of range for dialogue '{dialogue}' " ++
        s!"({Text.Numeral.natural count} lines)"
  | .alreadyCompleted dialogue => s!"dialogue '{dialogue}' already completed"
  | .advanceOutsideDialogue => "advance called outside a dialogue"
  | .chooseOutsideChoice => "choose called outside a choice"
  | .notResumable kind id =>
      s!"snapshot of {kind.text} '{id}' cannot be resumed" ++
        if kind = .dialogue then " without a line index" else ""

/-- Why a story could not be loaded or a call not be answered. -/
inductive StoryError where
  | notFound (kind : NodeKind) (id : String)
  | invalidSelection (choice : String) (index : Nat)
  | invalidLogic (tag : String)
  | invalidMode (tag : String)
  | invalidState (misstep : Misstep)
  | unknownHostBinding (name : String)
  | invalidPackage (issues : List Validation.Issue)
  | fileAccess (fault : Files.Fault)
  | unreadable (fault : Notation.Fault)
  deriving DecidableEq, Repr

/-- The error in words. -/
def StoryError.message : StoryError → String
  | .notFound kind id => s!"{kind.text} not found: '{id}'"
  | .invalidSelection choice index =>
      s!"invalid selection {Text.Numeral.natural index} for choice '{choice}'"
  | .invalidLogic tag => s!"unrecognized event logic '{tag}'"
  | .invalidMode tag => s!"unrecognized execution mode '{tag}'"
  | .invalidState misstep => s!"invalid state: {misstep.message}"
  | .unknownHostBinding name => s!"no host binding registered for '{name}'"
  | .invalidPackage issues =>
      s!"package failed validation with {Text.Numeral.natural issues.length} issue(s)"
  | .fileAccess fault => s!"IO error: {fault.message}"
  | .unreadable fault => s!"RON error: {fault.message}"

end BranchingStory
