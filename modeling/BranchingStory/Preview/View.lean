import BranchingStory.Json.Datum
import BranchingStory.Markup
import BranchingStory.Notation.Story
import BranchingStory.Session.Basic

/-!
# Steps and outcomes in JSON

A step is shown as an object that has the same members whatever kind of step it is: the
ones that do not apply are null or empty. Texts are shown with their highlights tagged.
-/

namespace BranchingStory

namespace Json

/-- A text, or null without one. -/
def ofText? (text : Option String) : Json := (text.map Json.string).getD .null

/-- A number of the program's own, or null without one. -/
def ofIndex? (index : Option Nat) : Json := (index.map fun found => ofInt found).getD .null

end Json

/-- The members of a step. -/
structure StepView where
  kind : String
  node : Option String := none
  index : Option Nat := none
  speaker : Option String := none
  text : Option String := none
  effect : Option String := none
  image : Option String := none
  sound : Option String := none
  cutscene : Option String := none
  options : List OpenLine := []
  fired : Option Bool := none
  applied : List Nat := []
  target : Option String := none

/-- What is shown of a step. -/
def Step.view : Step → StepView
  | .line dialogue index shown => {
      kind := "line"
      node := some dialogue
      index := some index
      speaker := some shown.speaker
      text := some (Markup.format shown.text)
      effect := some shown.effect
      image := shown.image
      sound := shown.sound
      cutscene := shown.cutscene }
  | .choice offered options => { kind := "choice", node := some offered.id, options }
  | .event id report => {
      kind := "event"
      node := some id
      fired := some report.fired
      applied := report.applied }
  | .completed => { kind := "completed" }
  | .transition target => { kind := "transition", target := some target }

/-- An open option in JSON. -/
def OpenLine.json (option : OpenLine) : Json :=
  .object [
    ("index", Json.ofInt option.index),
    ("text", .string (Markup.format option.line.text)),
    ("classification", .string option.line.classification.tag)]

/-- The members of a step in JSON. -/
def StepView.json (view : StepView) : Json :=
  .object [
    ("kind", .string view.kind),
    ("node", Json.ofText? view.node),
    ("index", Json.ofIndex? view.index),
    ("speaker", Json.ofText? view.speaker),
    ("text", Json.ofText? view.text),
    ("effect", Json.ofText? view.effect),
    ("image", Json.ofText? view.image),
    ("sound", Json.ofText? view.sound),
    ("cutscene", Json.ofText? view.cutscene),
    ("options", .array (view.options.map OpenLine.json)),
    ("fired", (view.fired.map Json.bool).getD .null),
    ("applied", .array (view.applied.map fun (index : Nat) => Json.ofInt index)),
    ("target", Json.ofText? view.target)]

/-- A step in JSON. -/
def Step.json (step : Step) : Json := step.view.json

/-- An outcome in JSON. -/
def Outcome.json (outcome : Outcome) : Json := Json.of .literal outcome

end BranchingStory
