import BranchingStory.Choice.Resolver
import BranchingStory.Dialogue.Cursor
import BranchingStory.Store.Basic

/-!
# Sessions

A session is one playthrough of a story: a store, the player's state, the shuffle state
and a position. Entering a node by its id, going on in a dialogue and choosing in a
choice are the moves; each gives what to show, or an error, together with the session
afterwards. What lies outside the node at hand is only named, and it is up to the host
to enter it. A snapshot is a position that outlives its session: the node, the line in it
if it is a dialogue, and how far the random orders have been used.
-/

namespace BranchingStory

/-- Where a playthrough stands. -/
inductive Position where
  | idle
  | dialogue (cursor : Cursor)
  | choice (choice : Choice)
  deriving DecidableEq, Repr

/-- A saved position. -/
structure Snapshot where
  node : Option String
  line : Option Nat
  /-- Without it the seed of the restoring session stays. -/
  shuffle : Option ShuffleState
  deriving DecidableEq, Repr

namespace Snapshot

/-- No node, no line and no shuffle state. -/
def empty : Snapshot := ⟨none, none, none⟩

end Snapshot

/-- What to show next. -/
inductive Step where
  | line (dialogue : String) (index : Nat) (line : DialogueLine)
  | choice (choice : Choice) (options : List OpenLine)
  | event (id : String) (report : EventReport)
  /-- The dialogue came to its end. -/
  | completed
  /-- The dialogue goes on in another node. -/
  | transition (target : String)
  deriving DecidableEq, Repr

/-- The step that shows the line at which a cursor stands. -/
def Cursor.step (cursor : Cursor) : Except StoryError Step :=
  match cursor.index?, cursor.current? with
  | some index, some line => .ok (.line cursor.dialogue.id index line)
  | _, _ => .error (.invalidState (.alreadyCompleted cursor.dialogue.id))

/-- One playthrough. -/
structure Session (σ : Type) where
  store : Store σ
  state : σ
  shuffle : ShuffleState
  position : Position

namespace Session

variable {σ : Type}

/-- A playthrough that has not entered any node. -/
def start (store : Store σ) (state : σ) : Session σ := ⟨store, state, .start 0, .idle⟩

/-- Begins the random orders anew from a seed. -/
def seed (session : Session σ) (seed : UInt64) : Session σ :=
  { session with shuffle := .start seed }

/-- Lets the host change the player's state. -/
def setState (session : Session σ) (state : σ) : Session σ := { session with state }

/-- The same playthrough at no node. -/
def atIdle (session : Session σ) : Session σ := { session with position := .idle }

def isIdle (session : Session σ) : Bool := session.position == .idle

variable [PlayerState σ]

/-- Presents a choice. -/
def presentChoice (session : Session σ) (choice : Choice) : Step × Session σ :=
  (.choice choice (choice.openLines session.state),
    { session with position := .choice choice })

/-- Enters a node, whatever was at hand before. When the node cannot be entered the
session is at none. -/
def enter (session : Session σ) (id : String) : Except StoryError Step × Session σ :=
  let idle := session.atIdle
  match session.store.resolve id with
  | .error error => (.error error, idle)
  | .ok (.dialogue dialogue) =>
      match Cursor.start dialogue with
      | .error error => (.error error, idle)
      | .ok cursor => (cursor.step, { idle with position := .dialogue cursor })
  | .ok (.choice choice) =>
      let (step, entered) := idle.presentChoice choice
      (.ok step, entered)
  | .ok (.event event) =>
      let (report, shuffle, state) := event.apply idle.shuffle idle.state
      (report.map (.event event.id), { idle with shuffle, state })

/-- Goes on in the dialogue at hand. A dialogue that is left leaves the session at no
node. -/
def advance (session : Session σ) : Except StoryError Step × Session σ :=
  match session.position with
  | .dialogue cursor =>
      match cursor.advance with
      | .error error => (.error error, session)
      | .ok (.line index line, cursor) =>
          (.ok (.line cursor.dialogue.id index line),
            { session with position := .dialogue cursor })
      | .ok (.completed, _) => (.ok .completed, session.atIdle)
      | .ok (.external target, _) => (.ok (.transition target), session.atIdle)
  | _ => (.error (.invalidState .advanceOutsideDialogue), session)

/-- Takes an option of the choice at hand. A refused option leaves the choice there. -/
def choose (session : Session σ) (index : Nat) : Except StoryError Outcome × Session σ :=
  match session.position with
  | .choice choice =>
      match choice.resolve index session.state with
      | .error error => (.error error, session)
      | .ok outcome => (.ok outcome, session.atIdle)
  | _ => (.error (.invalidState .chooseOutsideChoice), session)

/-- The position as it can be saved. -/
def snapshot (session : Session σ) : Snapshot :=
  match session.position with
  | .idle => ⟨none, none, some session.shuffle⟩
  | .dialogue cursor => ⟨some cursor.dialogue.id, cursor.index?, some session.shuffle⟩
  | .choice choice => ⟨some choice.id, none, some session.shuffle⟩

/-- Takes up the node of a snapshot, which is a dialogue with a line or a choice without
one, and gives the step that shows it. -/
def takeUp (session : Session σ) (id : String) (line : Option Nat) :
    Except StoryError Step × Session σ :=
  match session.store.resolve id, line with
  | .error error, _ => (.error error, session)
  | .ok (.dialogue dialogue), some line =>
      match Cursor.resume dialogue line with
      | .error error => (.error error, session)
      | .ok cursor =>
          match cursor.step with
          | .error error => (.error error, session)
          | .ok step => (.ok step, { session with position := .dialogue cursor })
  | .ok (.choice choice), none =>
      let (step, entered) := session.presentChoice choice
      (.ok step, entered)
  | .ok node, _ => (.error (.invalidState (.notResumable node.kind id)), session)

/-- Goes back to a snapshot and gives the step to show again, if there is one. The
shuffle state is taken over before the position, and stays taken over when the position
is refused. -/
def restore (session : Session σ) (snapshot : Snapshot) :
    Except StoryError (Option Step) × Session σ :=
  let session := match snapshot.shuffle with
    | some shuffle => { session with shuffle }
    | none => session
  match snapshot.node with
  | none => (.ok none, session.atIdle)
  | some id =>
      let (step, session) := session.takeUp id snapshot.line
      (step.map some, session)

end Session

end BranchingStory
