import BranchingStory.Choice.Basic
import BranchingStory.Dialogue.Basic
import BranchingStory.Event.Rule
import BranchingStory.Event.Tag

/-!
# Packages

A package is the content of one or several files: dialogues, choices and events under
their ids. Merging lays one package over another, id by id within each kind.
-/

namespace BranchingStory

/-- A dialogue without its id. -/
structure DialogueBody where
  entry : Option String
  lines : List DialogueLine
  deriving DecidableEq, Repr

/-- A choice without its id. -/
structure ChoiceBody where
  lines : List ChoiceLine
  deriving DecidableEq, Repr

/-- An event without its id, not yet bound to a host. -/
structure EventBody where
  logic : Logic
  mode : Mode
  conditions : List ConditionRule
  results : List EffectRule
  deriving DecidableEq

/-- Content under its ids. -/
structure Package where
  dialogues : Table DialogueBody
  choices : Table ChoiceBody
  events : Table EventBody

namespace Package

/-- No content. -/
def empty : Package := ⟨∅, ∅, ∅⟩

/-- The content of both packages; where both have a node of one kind and id, the second
one's is taken. -/
def merge (base top : Package) : Package where
  dialogues := Table.overlay base.dialogues top.dialogues
  choices := Table.overlay base.choices top.choices
  events := Table.overlay base.events top.events

end Package

end BranchingStory
