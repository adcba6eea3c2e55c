import BranchingStory.Store.Basic
import BranchingStory.Validation.Reachability

/-!
# Checking a story

Every node is checked on its own against the ids of the store: dialogues first, then
choices, then events, each in the order of the ids, and at last the ids that several
kinds share. A node without lines has no other issues.
-/

namespace BranchingStory

open Validation

namespace Dialogue

/-- An issue of a dialogue. -/
def issue (dialogue : Dialogue) (line : Option Nat) (problem : Problem) : Issue :=
  ⟨.dialogue, dialogue.id, line, problem⟩

/-- The issue of a key that lines before have as well. -/
def keyIssues (dialogue : Dialogue) (index : Nat) (before : List DialogueLine)
    (line : DialogueLine) : List Issue :=
  match line.key with
  | none => []
  | some key =>
      if before.any fun earlier => earlier.key == some key then
        [dialogue.issue (some index) (.duplicateLineKey key)]
      else
        []

/-- The issue of a line that leads nowhere. -/
def nextIssues (known : String → Bool) (dialogue : Dialogue) (index : Nat)
    (line : DialogueLine) : List Issue :=
  match dialogue.classify line.next with
  | .external target =>
      if known target then [] else [dialogue.issue (some index) (.danglingNext target)]
  | _ => []

/-- The issues of single lines, in order. -/
def lineIssues (known : String → Bool) (dialogue : Dialogue) : List Issue :=
  dialogue.lines.zipIdx.flatMap fun (line, index) =>
    dialogue.keyIssues index (dialogue.lines.take index) line ++
      nextIssues known dialogue index line

/-- The issue of the entry, or those of lines that cannot be met from it. -/
def entryIssues (dialogue : Dialogue) : List Issue :=
  match dialogue.entryIndex? with
  | none => [dialogue.issue none (.unknownEntry (dialogue.entry.getD ""))]
  | some entry =>
      (unreachedFrom dialogue entry).map fun index =>
        dialogue.issue (some index) (.unreachableLine index)

/-- All issues of a dialogue, where some ids are known. -/
def issues (known : String → Bool) (dialogue : Dialogue) : List Issue :=
  if dialogue.lines.isEmpty then [dialogue.issue none .empty]
  else dialogue.lineIssues known ++ dialogue.entryIssues

end Dialogue

namespace Choice

/-- An issue of a choice. -/
def issue (choice : Choice) (line : Option Nat) (problem : Problem) : Issue :=
  ⟨.choice, choice.id, line, problem⟩

/-- The issues of one option: that it leads nowhere and that its skip is none. -/
def lineIssues (known : String → Bool) (choice : Choice) (index : Nat)
    (line : ChoiceLine) : List Issue :=
  (if isTerminal line.next || known line.next then []
    else [choice.issue (some index) (.danglingNext line.next)]) ++
  (if line.tutorialSkip < noSkip then
    [choice.issue (some index) (.invalidTutorialSkip line.tutorialSkip)]
    else [])

/-- All issues of a choice, where some ids are known. -/
def issues (known : String → Bool) (choice : Choice) : List Issue :=
  if choice.lines.isEmpty then [choice.issue none .empty]
  else
    (choice.lines.zipIdx.flatMap fun (line, index) =>
      lineIssues known choice index line) ++
    (if choice.lines.any (·.isOpenTo leastResponsibility) then []
      else [choice.issue none .unreachableChoice])

end Choice

namespace Event

variable {σ : Type}

/-- The issues of an event: tags that are not recognized. -/
def issues (event : Event σ) : List Issue :=
  (match event.logic with
    | .unrecognized tag => [⟨.event, event.id, none, .unrecognizedLogic tag⟩]
    | _ => []) ++
  (match event.mode with
    | .unrecognized tag => [⟨.event, event.id, none, .unrecognizedMode tag⟩]
    | _ => [])

end Event

namespace Store

variable {σ : Type}

/-- The issue of an id that several kinds share. -/
def sharedIdIssues (store : Store σ) (id : String) : List Issue :=
  let kinds := store.kindsOf id
  if 1 < kinds.length then [⟨.node, id, none, .duplicateId kinds⟩] else []

/-- All issues of a store. -/
def validate (store : Store σ) : List Issue :=
  (store.dialogues.values.flatMap (Dialogue.issues store.contains)) ++
    (store.choices.values.flatMap (Choice.issues store.contains)) ++
    (store.events.values.flatMap Event.issues) ++
    store.distinctIds.flatMap store.sharedIdIssues

end Store

end BranchingStory
