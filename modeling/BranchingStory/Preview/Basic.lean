import BranchingStory.Preview.Save
import BranchingStory.Preview.View
import BranchingStory.Store.Sources

/-!
# Previews

A preview plays a story for a page that cannot hold a session. Between two calls only a
snapshot and the variables are kept: every call builds a session from them, performs
one move in it, and keeps what it left behind. The snapshot carries the shuffle state,
so that rebuilding does not begin the random orders anew.
-/

namespace BranchingStory

/-- Why a preview could not be made or a call not be answered. -/
inductive PreviewError where
  | packageUnreadable (error : StoryError)
  | packageRefused (error : StoryError)
  | saveUnreadable
  | callRefused (error : StoryError)
  deriving DecidableEq, Repr

/-- The error in words. -/
def PreviewError.message : PreviewError → String
  | .packageUnreadable error => s!"Package parse error: {error.message}"
  | .packageRefused error => s!"Package load error: {error.message}"
  | .saveUnreadable => "Save parse error: not a save"
  | .callRefused error => error.message

/-- A story with what is kept of its playthrough between two calls. -/
structure Preview where
  store : Store Variables
  state : Variables
  snapshot : Snapshot
  seed : UInt64

namespace Preview

/-- A preview of a package, which has to be free of errors. -/
def ofPackageText (text : String) (seed : UInt64) : Except PreviewError Preview := do
  let package ← (Package.ofText text).mapError .packageUnreadable
  let store ← (Store.ofPackage package .none true).mapError .packageRefused
  return ⟨store, .empty, .empty, seed⟩

/-- Performs a move in a session built from what is kept, and keeps what it left. -/
def perform {α : Type} (preview : Preview)
    (move : Session Variables → Except StoryError α × Session Variables) :
    Except PreviewError α × Preview :=
  let session := (Session.start preview.store preview.state).seed preview.seed
  let (restored, session) := session.restore preview.snapshot
  let answer : Except StoryError α × Session Variables := match restored with
    | .error error => (.error error, session)
    | .ok _ => move session
  (answer.1.mapError .callRefused,
    { preview with state := answer.2.state, snapshot := answer.2.snapshot })

/-- Shows the successful answer of a call in JSON. -/
def showing {α : Type} (shown : α → Json) (answer : Except PreviewError α × Preview) :
    Except PreviewError Json × Preview :=
  (answer.1.map shown, answer.2)

/-- Enters a node. -/
def enter (preview : Preview) (id : String) : Except PreviewError Json × Preview :=
  showing Step.json (preview.perform fun session => session.enter id)

/-- Goes on in the dialogue at hand. -/
def advance (preview : Preview) : Except PreviewError Json × Preview :=
  showing Step.json (preview.perform Session.advance)

/-- Takes an option of the choice at hand. -/
def choose (preview : Preview) (index : Nat) : Except PreviewError Json × Preview :=
  showing Outcome.json (preview.perform fun session => session.choose index)

/-- Sets a variable to what an input stands for. -/
def setVariable (preview : Preview) (key input : String) : Preview :=
  { preview with state := preview.state.set key (Value.ofInput input) }

/-- The variables as pairs of name and text, in the order of the names. -/
def stateJson (preview : Preview) : Json :=
  .array (preview.state.toList.map fun (key, value) =>
    .array [.string key, .string value.text])

/-- The text of a save. -/
def save (preview : Preview) : String := Save.text ⟨preview.snapshot, preview.state⟩

/-- Goes back to a save and gives the step to show again, or null if there is none. The
variables and the shuffle state of the save are taken over before its position, and
stay taken over when the position is refused. -/
def load (preview : Preview) (text : String) : Except PreviewError Json × Preview :=
  match Save.ofText? text with
  | none => (.error .saveUnreadable, preview)
  | some save =>
      let prepared := { preview with
        state := save.state
        snapshot := { Snapshot.empty with shuffle := save.snapshot.shuffle } }
      showing (fun step => (step.map Step.json).getD .null)
        (prepared.perform fun session => session.restore save.snapshot)

/-- The issues of a package that is read and bound without a host, as texts. -/
def validatePackage (text : String) : Except PreviewError (List String) := do
  let package ← (Package.ofText text).mapError .callRefused
  let bindings : HostBindings Variables := .none
  let store ← (Store.ofPackage package bindings false).mapError .callRefused
  return store.validate.map Validation.Issue.text

end Preview

end BranchingStory
