import BranchingStory.Proofs.Choice.Resolver
import BranchingStory.Proofs.Session.Restore
import BranchingStory.Proofs.Store.Building
import BranchingStory.Proofs.Validation.Playable

/-!
# Play does not get stuck

In a playable store a session is refused nothing that the story offers: entering a node
that the store has, going on inside a dialogue, taking an option that is listed and
loading a save of the same story.  What it is led to is again in the store, so play goes
on from there, until a dialogue or an option comes to the end.
-/

namespace BranchingStory

variable {σ : Type} {store : Store σ}

/-- A step that can be gone on from: a choice lists an option, and what lies outside the
node at hand is in the store. -/
def Step.LeadsOn (store : Store σ) : Step → Prop
  | .choice _ options => options ≠ []
  | .transition target => store.contains target = true
  | .line _ _ _ | .event _ _ | .completed => True

/-- What an option leads to is the end or in the store. -/
def Outcome.LeadsOn (store : Store σ) (outcome : Outcome) : Prop :=
  isTerminal outcome.next = true ∨ store.contains outcome.next = true

/-- An answer that is no error and leads on. -/
inductive Answer.Unstuck (store : Store σ) : Answer → Prop where
  | step {shown : Step} (leads : shown.LeadsOn store) : Unstuck store (.step (.ok shown))
  | outcome {taken : Outcome} (leads : taken.LeadsOn store) :
      Unstuck store (.outcome (.ok taken))
  | snapshot (snapshot : Snapshot) : Unstuck store (.snapshot snapshot)
  | restored {shown : Option Step} (leads : ∀ step ∈ shown, step.LeadsOn store) :
      Unstuck store (.restored (.ok shown))
  | done : Unstuck store .done

/-- Going on in a dialogue leads to a line, to the end or to a node of the store. -/
theorem Session.advance_unstuck {session : Session σ} (playable : session.store.Playable)
    (coherent : session.Coherent) {cursor : Cursor}
    (atHand : session.position = .dialogue cursor) :
    ∃ shown, session.advance.1 = .ok shown ∧ shown.LeadsOn session.store := by
  have anchored := coherent.anchored
  rw [atHand] at anchored
  cases anchored with
  | @dialogue dialogue index found inside =>
      cases classified : dialogue.classify dialogue.lines[index].next with
      | terminal =>
          rw [advance_of_terminal atHand inside classified]
          exact ⟨_, rfl, trivial⟩
      | external target =>
          rw [advance_of_external atHand inside classified]
          exact ⟨_, rfl, (playable.dialogue found).leads index inside target classified⟩
      | line next =>
          rw [advance_of_line atHand inside classified (Dialogue.classify_line_lt classified)]
          exact ⟨_, rfl, trivial⟩

variable [PlayerState σ]

/-- An event with known tags never fails, whatever the player's state is. -/
theorem Event.Playable.apply_ok {event : Event σ} (playable : event.Playable)
    (shuffle : ShuffleState) (state : σ) :
    ∃ report, (event.apply shuffle state).1 = .ok report := by
  have settled : ∃ fires, event.evaluate state = .ok fires := by
    cases logic : event.logic with
    | and => exact ⟨event.conditions.all (·.holds state), by simp only [Event.evaluate, logic]⟩
    | or => exact ⟨event.conditions.any (·.holds state), by simp only [Event.evaluate, logic]⟩
    | unrecognized tag => exact absurd logic (playable.logic tag)
  obtain ⟨fires, evaluated⟩ := settled
  cases mode : event.mode with
  | unrecognized tag => exact absurd mode (playable.mode tag)
  | sequential => cases fires <;> exact ⟨_, by simp only [Event.apply, mode, evaluated]; rfl⟩
  | concurrent => cases fires <;> exact ⟨_, by simp only [Event.apply, mode, evaluated]; rfl⟩

theorem Choice.Playable.leadsOn {choice : Choice} (playable : choice.Playable store.contains)
    (state : σ) : (Step.choice choice (choice.openLines state)).LeadsOn store := by
  obtain ⟨line, member, isOpen⟩ := playable.opens
  exact openLines_ne_nil member isOpen state

namespace Session

variable {session : Session σ}

/-- What the story offers to a host: the nodes of the store, to go on inside a dialogue,
the options that are listed now and the saves of the same story.  Changing the player's
state is always allowed. -/
def Allowed (session : Session σ) : Move σ → Prop
  | .enter id => session.store.contains id = true
  | .advance => ∃ cursor, session.position = .dialogue cursor
  | .choose index => ∃ choice line, session.position = .choice choice ∧
      (⟨index, line⟩ : OpenLine) ∈ choice.openLines session.state
  | .restore snapshot => ∃ saved : Session σ,
      saved.ReachedIn session.store ∧ snapshot = saved.snapshot
  | .snapshot | .setState _ => True

/-- Every move is allowed when it is made. -/
def Lawful (session : Session σ) : List (Move σ) → Prop
  | [] => True
  | move :: moves => session.Allowed move ∧ (session.perform move).2.Lawful moves

theorem enter_unstuck (playable : session.store.Playable) {id : String}
    (contained : session.store.contains id = true) :
    ∃ shown, (session.enter id).1 = .ok shown ∧ shown.LeadsOn session.store := by
  obtain ⟨node, found⟩ := Store.contains_iff.1 contained
  cases node with
  | dialogue dialogue =>
      obtain ⟨index, entry⟩ := (playable.dialogue found).entered
      rw [enter_of_entry found entry (Dialogue.entryIndex?_lt entry)]
      exact ⟨_, rfl, trivial⟩
  | choice choice =>
      rw [enter_of_choice found]
      exact ⟨_, rfl, (playable.choice found).leadsOn session.state⟩
  | event event =>
      obtain ⟨report, applied⟩ :=
        (playable.event found).apply_ok session.shuffle session.state
      rw [enter_of_event found, applied]
      exact ⟨_, rfl, trivial⟩

theorem choose_unstuck (playable : session.store.Playable) (coherent : session.Coherent)
    {choice : Choice} (atHand : session.position = .choice choice) {index : Nat}
    {line : ChoiceLine}
    (listed : (⟨index, line⟩ : OpenLine) ∈ choice.openLines session.state) :
    (session.choose index).1 = .ok line.outcome ∧ line.outcome.LeadsOn session.store := by
  have anchored := coherent.anchored
  rw [atHand] at anchored
  cases anchored with
  | choice found =>
      rw [choose_of_open atHand (Choice.resolve_of_listed listed)]
      obtain ⟨lookup, _⟩ := Choice.mem_openLines.1 listed
      exact ⟨rfl, (playable.choice found).leads line (List.mem_of_getElem? lookup)⟩

theorem Presents.leadsOn (playable : session.store.Playable) (coherent : session.Coherent)
    {shown : Option Step} (presents : session.Presents shown) :
    ∀ step ∈ shown, step.LeadsOn session.store := by
  intro step member
  cases presents with
  | nothing atHand => contradiction
  | line inside atHand =>
      cases member
      trivial
  | choice atHand =>
      cases member
      have anchored := coherent.anchored
      rw [atHand] at anchored
      cases anchored with
      | choice found => exact (playable.choice found).leadsOn session.state

/-- A save of the same story can be loaded in any state of the player. -/
theorem restore_unstuck (playable : session.store.Playable) (keyed : session.store.Keyed)
    {saved : Session σ} (reached : saved.ReachedIn session.store) :
    ∃ shown, (session.restore saved.snapshot).1 = .ok shown ∧
      ∀ step ∈ shown, step.LeadsOn session.store := by
  -- The save does not hold the player's state, so it also stands for the session that was
  -- saved with the state that is there now.
  have coherent : (saved.setState session.state).Coherent :=
    (reached.coherent keyed).of_frame rfl rfl
  have stands := (saved.snapshot_standsFor session.shuffle).setState session.state
  obtain ⟨shown, restored, presents⟩ :=
    coherent.restore_of_standsFor session reached.store_eq.symm rfl stands
  refine ⟨shown, ?_, ?_⟩
  · rw [restored]
  · have sameStore : (saved.setState session.state).store = session.store := reached.store_eq
    rw [← sameStore] at playable ⊢
    exact presents.leadsOn playable coherent

/-- One allowed move is never refused and leads on. -/
theorem perform_unstuck (playable : session.store.Playable) (coherent : session.Coherent)
    {move : Move σ} (allowed : session.Allowed move) :
    (session.perform move).1.Unstuck session.store := by
  cases move with
  | enter id =>
      obtain ⟨shown, answered, leads⟩ := enter_unstuck playable allowed
      rw [perform, answered]
      exact .step leads
  | advance =>
      obtain ⟨cursor, atHand⟩ := allowed
      obtain ⟨shown, answered, leads⟩ := advance_unstuck playable coherent atHand
      rw [perform, answered]
      exact .step leads
  | choose index =>
      obtain ⟨choice, line, atHand, listed⟩ := allowed
      obtain ⟨answered, leads⟩ := choose_unstuck playable coherent atHand listed
      rw [perform, answered]
      exact .outcome leads
  | restore snapshot =>
      obtain ⟨saved, reached, rfl⟩ := allowed
      obtain ⟨shown, answered, leads⟩ := restore_unstuck playable coherent.keyed reached
      rw [perform, answered]
      exact .restored leads
  | snapshot => exact .snapshot _
  | setState state => exact .done

theorem observe_unstuck (playable : session.store.Playable) (coherent : session.Coherent)
    {moves : List (Move σ)} (lawful : session.Lawful moves) :
    ∀ seen ∈ session.observe moves, seen.answer.Unstuck session.store := by
  induction moves generalizing session with
  | nil =>
      intro seen member
      contradiction
  | cons move moves ih =>
      obtain ⟨allowed, remaining⟩ := lawful
      have sameStore := perform_store session move
      intro seen member
      rcases List.mem_cons.1 member with rfl | later
      · exact perform_unstuck playable coherent allowed
      · rw [← sameStore]
        exact ih (sameStore ▸ playable) (coherent.perform move) remaining seen later

/-- Once a strict build has accepted a story, no run of what the story offers gets stuck:
no call is refused, every choice lists an option, and every transition and every outcome
leads to the end or to a node of the store.  The state of the player may change in any way
between two calls, and its score of responsibility may be anything. -/
theorem unstuck_of_strict_build {sources : Sources} {bindings : HostBindings σ}
    {files after : Files.FileTree}
    (built : (sources.build bindings true :
      ExceptT StoryError (StateM Files.FileTree) (Store σ)).run.run files = (.ok store, after))
    (state : σ) (seed : UInt64) {moves : List (Move σ)}
    (lawful : ((start store state).seed seed).Lawful moves) :
    ∀ seen ∈ ((start store state).seed seed).observe moves, seen.answer.Unstuck store := by
  obtain ⟨package, accepted⟩ := Sources.build_ok built
  obtain ⟨constructed, harmless⟩ := Store.ofPackage_ok accepted
  have playable : store.Playable := Store.playable_of_validate (harmless rfl)
  exact observe_unstuck playable (coherent_start constructed.keyed state seed) lawful

end Session

namespace Sample

/-- An event that fires in random order. -/
def bell : EventBody :=
  ⟨.and, .concurrent, [.flag "rope"], [.add "rung" 1, .toggle "rope"]⟩

/-- The small story as a package, with an event. -/
def package : Package where
  dialogues := Table.ofEntries [(dock.id, ⟨dock.entry, dock.lines⟩)]
  choices := Table.ofEntries [(route.id, ⟨route.lines⟩)]
  events := Table.ofEntries [("bell", bell)]

def loaded : Store Variables := (Store.empty.load package .none).2

end Sample

/-- The strict build accepts the small story, and a run through all of its nodes, in which
the score falls below the least and a save of another run is loaded, does not get stuck. -/
theorem Session.unstuck_of_strict_build_package :
    let moves : List (Move Variables) := [.enter "dock", .advance, .snapshot, .advance,
      .enter "route", .setState (Variables.empty.withResponsibility (-7)), .choose 0,
      .restore ⟨some "dock", some 1, some ⟨9, 0⟩⟩, .enter "bell"]
    (Sources.build ⟨[], [], [Sample.package]⟩ .none true :
      ExceptT StoryError (StateM Files.FileTree) (Store Variables)).run.run .empty =
        (.ok Sample.loaded, .empty) ∧
    ((start Sample.loaded .empty).seed 5).Lawful moves ∧
    ∀ seen ∈ ((start Sample.loaded .empty).seed 5).observe moves,
      seen.answer.Unstuck Sample.loaded := by
  intro moves
  have built : (Sources.build ⟨[], [], [Sample.package]⟩ .none true :
      ExceptT StoryError (StateM Files.FileTree) (Store Variables)).run.run .empty =
        (.ok Sample.loaded, .empty) := by rfl
  have dockKnown : Sample.loaded.contains "dock" = true := by decide +kernel
  have routeKnown : Sample.loaded.contains "route" = true := by decide +kernel
  have bellKnown : Sample.loaded.contains "bell" = true := by decide +kernel
  have lawful : ((start Sample.loaded .empty).seed 5).Lawful moves :=
    ⟨dockKnown, ⟨_, rfl⟩, trivial, ⟨_, rfl⟩, routeKnown, trivial,
      ⟨Sample.route, _, rfl, List.mem_cons_self⟩,
      ⟨((start Sample.loaded .empty).seed 9).after [.enter "dock", .advance],
        ⟨.empty, 9, _, rfl⟩, rfl⟩,
      bellKnown, trivial⟩
  exact ⟨built, lawful, unstuck_of_strict_build built .empty 5 lawful⟩

end BranchingStory
