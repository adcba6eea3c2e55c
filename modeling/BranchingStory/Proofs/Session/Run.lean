import BranchingStory.Proofs.Dialogue.Cursor
import BranchingStory.Proofs.Store.Keyed

/-!
# Runs of a session

A run is a list of moves, made one after another: calls of the host and changes that it
makes to the player's state in between.  Whatever the moves are, a session that began at
no node stays coherent: it stands at a node that the node's own id means in its store,
and in a dialogue it stands at one of the lines.
-/

namespace BranchingStory

/-- What a host does with a session. -/
inductive Move (σ : Type) where
  | enter (id : String)
  | advance
  | choose (index : Nat)
  | snapshot
  | restore (snapshot : Snapshot)
  /-- The player's state changes between two calls. -/
  | setState (state : σ)

/-- What a host gets back. -/
inductive Answer where
  | step (result : Except StoryError Step)
  | outcome (result : Except StoryError Outcome)
  | snapshot (snapshot : Snapshot)
  | restored (result : Except StoryError (Option Step))
  /-- Nothing was asked. -/
  | done

/-- What is seen of a move: its answer, and the player's state and the shuffle state
after it. -/
structure Observation (σ : Type) where
  answer : Answer
  state : σ
  shuffle : ShuffleState

/-- A position is anchored in a store when the node it is at is the one that the node's
id means, and a dialogue is at one of its lines. -/
inductive Position.Anchored {σ : Type} (store : Store σ) : Position → Prop where
  | idle : Anchored store .idle
  | dialogue {dialogue : Dialogue} {index : Nat}
      (found : store.node? dialogue.id = some (.dialogue dialogue))
      (inside : index < dialogue.lines.length) :
      Anchored store (.dialogue ⟨dialogue, .atLine index⟩)
  | choice {choice : Choice} (found : store.node? choice.id = some (.choice choice)) :
      Anchored store (.choice choice)

/-- The node that an id means, or its lack, is not one to be taken up at a line or without
one; the error says why. -/
inductive Store.Unfit {σ : Type} (store : Store σ) (id : String) :
    Option Nat → StoryError → Prop where
  | missing {line : Option Nat} (missing : store.node? id = none) :
      Unfit store id line (.notFound .node id)
  | event {line : Option Nat} {event : Event σ} (found : store.node? id = some (.event event)) :
      Unfit store id line (.invalidState (.notResumable .event id))
  | dialogue {dialogue : Dialogue} (found : store.node? id = some (.dialogue dialogue)) :
      Unfit store id none (.invalidState (.notResumable .dialogue id))
  | outside {dialogue : Dialogue} {index : Nat}
      (found : store.node? id = some (.dialogue dialogue))
      (outside : ¬index < dialogue.lines.length) :
      Unfit store id (some index)
        (.invalidState (.lineOutOfRange index dialogue.id dialogue.lines.length))
  | choice {choice : Choice} {index : Nat} (found : store.node? id = some (.choice choice)) :
      Unfit store id (some index) (.invalidState (.notResumable .choice id))

namespace Session

variable {σ : Type} {session : Session σ}

/-- What every run preserves. -/
structure Coherent (session : Session σ) : Prop where
  keyed : session.store.Keyed
  anchored : session.position.Anchored session.store

theorem coherent_start {store : Store σ} (keyed : store.Keyed) (state : σ) (seed : UInt64) :
    ((start store state).seed seed).Coherent :=
  ⟨keyed, .idle⟩

theorem Coherent.atIdle (coherent : session.Coherent) : session.atIdle.Coherent :=
  ⟨coherent.keyed, .idle⟩

/-- Coherence is about the store and the position alone. -/
theorem Coherent.of_frame {other : Session σ} (coherent : session.Coherent)
    (store : other.store = session.store) (position : other.position = session.position) :
    other.Coherent := by
  refine ⟨store ▸ coherent.keyed, ?_⟩
  rw [store, position]
  exact coherent.anchored

/-! ## Single moves -/

section Advance

variable {dialogue : Dialogue} {index : Nat}

theorem advance_of_terminal (atLine : session.position = .dialogue ⟨dialogue, .atLine index⟩)
    (inside : index < dialogue.lines.length)
    (classified : dialogue.classify dialogue.lines[index].next = .terminal) :
    session.advance = (.ok .completed, session.atIdle) := by
  simp only [advance, atLine, Cursor.advance_of_terminal inside classified]

theorem advance_of_external (atLine : session.position = .dialogue ⟨dialogue, .atLine index⟩)
    (inside : index < dialogue.lines.length) {target : String}
    (classified : dialogue.classify dialogue.lines[index].next = .external target) :
    session.advance = (.ok (.transition target), session.atIdle) := by
  simp only [advance, atLine, Cursor.advance_of_external inside classified]

theorem advance_of_line (atLine : session.position = .dialogue ⟨dialogue, .atLine index⟩)
    (inside : index < dialogue.lines.length) {next : Nat}
    (classified : dialogue.classify dialogue.lines[index].next = .line next)
    (reached : next < dialogue.lines.length) :
    session.advance =
      (.ok (.line dialogue.id next dialogue.lines[next]),
        { session with position := .dialogue ⟨dialogue, .atLine next⟩ }) := by
  simp only [advance, atLine, Cursor.advance_of_line inside classified reached]

end Advance

theorem Coherent.advance (coherent : session.Coherent) : session.advance.2.Coherent := by
  generalize atHand : session.position = position
  have anchored := coherent.anchored
  rw [atHand] at anchored
  cases anchored with
  | idle => simpa only [Session.advance, atHand] using coherent
  | choice found => simpa only [Session.advance, atHand] using coherent
  | @dialogue dialogue index found inside =>
      cases classified : dialogue.classify dialogue.lines[index].next with
      | terminal =>
          rw [advance_of_terminal atHand inside classified]
          exact coherent.atIdle
      | external target =>
          rw [advance_of_external atHand inside classified]
          exact coherent.atIdle
      | line next =>
          have reached : next < dialogue.lines.length := Dialogue.classify_line_lt classified
          rw [advance_of_line atHand inside classified reached]
          exact ⟨coherent.keyed, .dialogue found reached⟩

variable [PlayerState σ]

section Enter

variable {id : String}

theorem enter_of_missing (missing : session.store.node? id = none) :
    session.enter id = (.error (.notFound .node id), session.atIdle) := by
  simp only [enter, Store.resolve_of_missing missing]

theorem enter_of_no_entry {dialogue : Dialogue}
    (found : session.store.node? id = some (.dialogue dialogue))
    (missing : dialogue.entryIndex? = none) :
    session.enter id =
      (.error (.invalidState (.noEntryLine dialogue.id)), session.atIdle) := by
  simp only [enter, Store.resolve_of_found found, Cursor.start_of_no_entry missing]

/-- A dialogue with an entry is entered at that line. -/
theorem enter_of_entry {dialogue : Dialogue} {index : Nat}
    (found : session.store.node? id = some (.dialogue dialogue))
    (entry : dialogue.entryIndex? = some index) (inside : index < dialogue.lines.length) :
    session.enter id =
      (.ok (.line dialogue.id index dialogue.lines[index]),
        { session with position := .dialogue ⟨dialogue, .atLine index⟩ }) := by
  simp only [enter, Store.resolve_of_found found, Cursor.start_of_entry entry,
    Cursor.step_atLine inside, atIdle]

theorem enter_of_choice {choice : Choice}
    (found : session.store.node? id = some (.choice choice)) :
    session.enter id =
      (.ok (.choice choice (choice.openLines session.state)),
        { session with position := .choice choice }) := by
  simp only [enter, Store.resolve_of_found found, presentChoice, atIdle]

theorem enter_of_event {event : Event σ}
    (found : session.store.node? id = some (.event event)) :
    session.enter id =
      ((event.apply session.shuffle session.state).1.map (.event event.id),
        { session.atIdle with
          shuffle := (event.apply session.shuffle session.state).2.1
          state := (event.apply session.shuffle session.state).2.2 }) := by
  simp only [enter, Store.resolve_of_found found, atIdle]

end Enter

theorem Coherent.enter (coherent : session.Coherent) (id : String) :
    (session.enter id).2.Coherent := by
  cases found : session.store.node? id with
  | none =>
      rw [enter_of_missing found]
      exact coherent.atIdle
  | some node =>
      cases node with
      | dialogue dialogue =>
          cases entry : dialogue.entryIndex? with
          | none =>
              rw [enter_of_no_entry found entry]
              exact coherent.atIdle
          | some index =>
              have inside : index < dialogue.lines.length := Dialogue.entryIndex?_lt entry
              rw [enter_of_entry found entry inside]
              exact ⟨coherent.keyed, .dialogue (coherent.keyed.node?_id found) inside⟩
      | choice choice =>
          rw [enter_of_choice found]
          exact ⟨coherent.keyed, .choice (coherent.keyed.node?_id found)⟩
      | event event =>
          rw [enter_of_event found]
          exact coherent.atIdle.of_frame rfl rfl

theorem choose_of_open {choice : Choice} {index : Nat} {outcome : Outcome}
    (atChoice : session.position = .choice choice)
    (resolved : choice.resolve index session.state = .ok outcome) :
    session.choose index = (.ok outcome, session.atIdle) := by
  simp only [choose, atChoice, resolved]

theorem choose_of_refused {choice : Choice} {index : Nat} {error : StoryError}
    (atChoice : session.position = .choice choice)
    (refused : choice.resolve index session.state = .error error) :
    session.choose index = (.error error, session) := by
  simp only [choose, atChoice, refused]

theorem Coherent.choose (coherent : session.Coherent) (index : Nat) :
    (session.choose index).2.Coherent := by
  cases atHand : session.position with
  | idle => simpa only [Session.choose, atHand] using coherent
  | dialogue cursor => simpa only [Session.choose, atHand] using coherent
  | choice choice =>
      cases resolved : choice.resolve index session.state with
      | error error =>
          rw [choose_of_refused atHand resolved]
          exact coherent
      | ok outcome =>
          rw [choose_of_open atHand resolved]
          exact coherent.atIdle

theorem takeUp_of_line (session : Session σ) {id : String} {dialogue : Dialogue} {index : Nat}
    (found : session.store.node? id = some (.dialogue dialogue))
    (inside : index < dialogue.lines.length) :
    session.takeUp id (some index) =
      (.ok (.line dialogue.id index dialogue.lines[index]),
        { session with position := .dialogue ⟨dialogue, .atLine index⟩ }) := by
  simp only [takeUp, Store.resolve_of_found found, Cursor.resume_of_lt inside,
    Cursor.step_atLine inside]

theorem takeUp_of_choice (session : Session σ) {id : String} {choice : Choice}
    (found : session.store.node? id = some (.choice choice)) :
    session.takeUp id none =
      (.ok (.choice choice (choice.openLines session.state)),
        { session with position := .choice choice }) := by
  simp only [takeUp, Store.resolve_of_found found, presentChoice]

theorem takeUp_of_unfit (session : Session σ) {id : String} {line : Option Nat}
    {error : StoryError} (unfit : session.store.Unfit id line error) :
    session.takeUp id line = (.error error, session) := by
  cases unfit with
  | missing missing => simp only [takeUp, Store.resolve_of_missing missing]
  | event found | dialogue found | choice found =>
      simp only [takeUp, Store.resolve_of_found found, Node.kind]
  | outside found outside =>
      simp only [takeUp, Store.resolve_of_found found, Cursor.resume_of_not_lt outside]

/-- What taking up a node at a line can give, with the session afterwards. -/
inductive TakesUp (session : Session σ) (id : String) :
    Option Nat → Except StoryError Step × Session σ → Prop where
  | refused {line : Option Nat} {error : StoryError}
      (unfit : session.store.Unfit id line error) :
      TakesUp session id line (.error error, session)
  | line {dialogue : Dialogue} {index : Nat}
      (found : session.store.node? id = some (.dialogue dialogue))
      (inside : index < dialogue.lines.length) :
      TakesUp session id (some index) (.ok (.line dialogue.id index dialogue.lines[index]),
        { session with position := .dialogue ⟨dialogue, .atLine index⟩ })
  | choice {choice : Choice} (found : session.store.node? id = some (.choice choice)) :
      TakesUp session id none (.ok (.choice choice (choice.openLines session.state)),
        { session with position := .choice choice })

theorem takesUp (session : Session σ) (id : String) (line : Option Nat) :
    session.TakesUp id line (session.takeUp id line) := by
  have refuse {error : StoryError} (unfit : session.store.Unfit id line error) :
      session.TakesUp id line (session.takeUp id line) := by
    rw [takeUp_of_unfit session unfit]
    exact .refused unfit
  cases found : session.store.node? id with
  | none => exact refuse (.missing found)
  | some node =>
      cases node with
      | event event => exact refuse (.event found)
      | choice choice =>
          cases line with
          | some index => exact refuse (.choice found)
          | none =>
              rw [takeUp_of_choice session found]
              exact .choice found
      | dialogue dialogue =>
          cases line with
          | none => exact refuse (.dialogue found)
          | some index =>
              by_cases inside : index < dialogue.lines.length
              · rw [takeUp_of_line session found inside]
                exact .line found inside
              · exact refuse (.outside found inside)

/-- Taking up a node leaves the session as it is or puts it at an anchored position. -/
theorem takeUp_session (keyed : session.store.Keyed) (id : String) (line : Option Nat) :
    (session.takeUp id line).2 = session ∨
      ∃ position, position.Anchored session.store ∧
        (session.takeUp id line).2 = { session with position } := by
  have moved := session.takesUp id line
  generalize session.takeUp id line = result at moved
  cases moved with
  | refused unfit => exact .inl rfl
  | line found inside => exact .inr ⟨_, .dialogue (keyed.node?_id found) inside, rfl⟩
  | choice found => exact .inr ⟨_, .choice (keyed.node?_id found), rfl⟩

theorem Coherent.takeUp (coherent : session.Coherent) (id : String) (line : Option Nat) :
    (session.takeUp id line).2.Coherent := by
  rcases takeUp_session coherent.keyed id line with kept | ⟨position, anchored, moved⟩
  · rw [kept]
    exact coherent
  · rw [moved]
    exact ⟨coherent.keyed, anchored⟩

theorem Coherent.restore (coherent : session.Coherent) (snapshot : Snapshot) :
    (session.restore snapshot).2.Coherent := by
  obtain ⟨node, line, shuffle⟩ := snapshot
  cases node with
  | none => cases shuffle <;> exact coherent.atIdle.of_frame rfl rfl
  | some id =>
      cases shuffle with
      | none => exact coherent.takeUp id line
      | some shuffle =>
          have reseeded : Coherent { session with shuffle } := coherent.of_frame rfl rfl
          exact reseeded.takeUp id line

/-! ## Whole runs -/

/-- Makes one move. -/
def perform (session : Session σ) : Move σ → Answer × Session σ
  | .enter id => (.step (session.enter id).1, (session.enter id).2)
  | .advance => (.step session.advance.1, session.advance.2)
  | .choose index => (.outcome (session.choose index).1, (session.choose index).2)
  | .snapshot => (.snapshot session.snapshot, session)
  | .restore snapshot =>
      (.restored (session.restore snapshot).1, (session.restore snapshot).2)
  | .setState state => (.done, session.setState state)

/-- The session after some moves. -/
def after (session : Session σ) : List (Move σ) → Session σ
  | [] => session
  | move :: moves => (session.perform move).2.after moves

/-- What is seen of some moves, in order. -/
def observe (session : Session σ) : List (Move σ) → List (Observation σ)
  | [] => []
  | move :: moves =>
      let (answer, next) := session.perform move
      ⟨answer, next.state, next.shuffle⟩ :: next.observe moves

theorem Coherent.perform (coherent : session.Coherent) (move : Move σ) :
    (session.perform move).2.Coherent := by
  cases move with
  | enter id => exact coherent.enter id
  | advance => exact coherent.advance
  | choose index => exact coherent.choose index
  | snapshot => exact coherent
  | restore snapshot => exact coherent.restore snapshot
  | setState state => exact coherent.of_frame rfl rfl

/-- Every run of a coherent session leaves it coherent. -/
theorem Coherent.after (coherent : session.Coherent) (moves : List (Move σ)) :
    (session.after moves).Coherent := by
  induction moves generalizing session with
  | nil => exact coherent
  | cons move moves ih => exact ih (coherent.perform move)

/-- No move changes the store. -/
@[simp] theorem perform_store (session : Session σ) (move : Move σ) :
    (session.perform move).2.store = session.store := by
  cases move with
  | enter id =>
      simp only [perform, enter]
      repeat' split
      all_goals rfl
  | advance =>
      simp only [perform, advance]
      repeat' split
      all_goals rfl
  | choose index =>
      simp only [perform, choose]
      repeat' split
      all_goals rfl
  | restore snapshot =>
      simp only [perform, restore, takeUp]
      repeat' split
      all_goals rfl
  | snapshot | setState state => rfl

@[simp] theorem after_store (session : Session σ) (moves : List (Move σ)) :
    (session.after moves).store = session.store := by
  induction moves generalizing session with
  | nil => rfl
  | cons move moves ih => exact (ih _).trans (perform_store session move)

/-- A session over a store that some run has led to. -/
def ReachedIn (store : Store σ) (session : Session σ) : Prop :=
  ∃ state seed moves, session = ((start store state).seed seed).after moves

theorem ReachedIn.store_eq {store : Store σ} (reached : session.ReachedIn store) :
    session.store = store := by
  obtain ⟨state, seed, moves, rfl⟩ := reached
  exact after_store _ moves

theorem ReachedIn.coherent {store : Store σ} (keyed : store.Keyed)
    (reached : session.ReachedIn store) : session.Coherent := by
  obtain ⟨state, seed, moves, rfl⟩ := reached
  exact (coherent_start keyed state seed).after moves

end Session

/-! ## A small story, on which statements about runs are tried out -/

namespace Sample

/-- A dialogue of two lines that leads to a choice. -/
def dock : Dialogue :=
  ⟨"dock", none,
    [⟨some "a", "Keeper", "Storm's coming.", "", none, none, none, "b"⟩,
      ⟨some "b", "Mara", "Then we [hurry].", "", none, none, none, "route"⟩]⟩

/-- A choice with an option for everybody and one that is gated. -/
def route : Choice :=
  ⟨"route",
    [.plain "Take the stairs" "END", { ChoiceLine.plain "Take the lift" "dock" with
      minResponsibility := 2 }]⟩

def store : Store Variables := (Store.empty.insertDialogue dock).insertChoice route

theorem store_constructed : store.Constructed :=
  (Store.Constructed.empty.insertDialogue dock).insertChoice route

end Sample

end BranchingStory
