import BranchingStory.Proofs.Event.Draws
import BranchingStory.Proofs.Session.Run

/-!
# The random orders of a session

A session uses up one random order whenever an event fires in the random mode, and nothing
else that is done with it does so, as long as no snapshot is restored.  Which order an event
gets therefore depends on the seed, on how many such events have fired before, and on how
many effects it has, but not on the story or on what else has happened.
-/

namespace BranchingStory

/-! ## One move -/

/-- The move does not go back to a snapshot. -/
def Move.Onward {σ : Type} : Move σ → Prop
  | .restore _ => False
  | .enter _ | .advance | .choose _ | .snapshot | .setState _ => True

namespace Session

variable {σ : Type} {session : Session σ}

/-- A move either makes an event fire in random order, in the order that the shuffle state
gives, and uses that order up, or it leaves the shuffle state alone. -/
structure Draws (session : Session σ) (fired : Option (Event σ × EventReport))
    (after : ShuffleState) : Prop where
  ordered : ∀ event report, fired = some (event, report) →
    report.applied = session.shuffle.orderOf event.effects.length
  used : after = session.shuffle.skip fired.toList.length

theorem draws_none (session : Session σ) : session.Draws none session.shuffle := by
  constructor
  · intro event report fired
    contradiction
  · rfl

theorem advance_shuffle (session : Session σ) : session.advance.2.shuffle = session.shuffle := by
  unfold advance
  repeat' split
  all_goals rfl

variable [PlayerState σ]

theorem choose_shuffle (session : Session σ) (index : Nat) :
    (session.choose index).2.shuffle = session.shuffle := by
  unfold choose
  repeat' split
  all_goals rfl

/-- The event that fires in random order when an id is entered, with its report. -/
def firedOnEntering? (session : Session σ) (id : String) : Option (Event σ × EventReport) :=
  match session.store.node? id, (session.enter id).1 with
  | some (.event event), .ok (.event _ report) =>
      if event.FiredAtRandom report then some (event, report) else none
  | _, _ => none

/-- The event that fires in random order when a move is made.  Events are only entered. -/
def firedBy? (session : Session σ) : Move σ → Option (Event σ × EventReport)
  | .enter id => session.firedOnEntering? id
  | .advance | .choose _ | .snapshot | .restore _ | .setState _ => none

theorem firedOnEntering?_of_other {id : String}
    (other : ∀ event, session.store.node? id ≠ some (.event event)) :
    session.firedOnEntering? id = none := by
  unfold firedOnEntering?
  split
  · next event _ _ found _ => exact absurd found (other event)
  · rfl

theorem draws_enter (session : Session σ) (id : String) :
    session.Draws (session.firedOnEntering? id) (session.enter id).2.shuffle := by
  cases found : session.store.node? id with
  | none =>
      rw [firedOnEntering?_of_other (by simp [found]), enter_of_missing found]
      exact session.draws_none
  | some node =>
      cases node with
      | dialogue dialogue =>
          rw [firedOnEntering?_of_other (by simp [found])]
          cases entry : dialogue.entryIndex? with
          | none =>
              rw [enter_of_no_entry found entry]
              exact session.draws_none
          | some index =>
              rw [enter_of_entry found entry (Dialogue.entryIndex?_lt entry)]
              exact session.draws_none
      | choice choice =>
          rw [firedOnEntering?_of_other (by simp [found]), enter_of_choice found]
          exact session.draws_none
      | event event =>
          simp only [firedOnEntering?, found, enter_of_event found]
          cases answered : (event.apply session.shuffle session.state).1 with
          | error error =>
              have kept : (event.apply session.shuffle session.state).2.1 = session.shuffle :=
                Event.apply_of_not_firedAtRandom (by simp [answered])
              rw [kept]
              exact session.draws_none
          | ok report =>
              by_cases fired : event.FiredAtRandom report
              · obtain ⟨ordered, used⟩ := Event.apply_of_firedAtRandom answered fired
                simp only [Except.map, if_pos fired]
                refine ⟨?_, used⟩
                rintro _ _ ⟨⟩
                exact ordered
              · have kept : (event.apply session.shuffle session.state).2.1 = session.shuffle :=
                  Event.apply_of_not_firedAtRandom (by simp [answered, fired])
                simp only [Except.map, if_neg fired]
                rw [kept]
                exact session.draws_none

/-- No other move than entering an event has to do with random orders, save going back to a
snapshot. -/
theorem draws_perform (session : Session σ) {move : Move σ} (onward : move.Onward) :
    session.Draws (session.firedBy? move) (session.perform move).2.shuffle := by
  cases move with
  | enter id => exact session.draws_enter id
  | advance =>
      rw [perform, advance_shuffle]
      exact session.draws_none
  | choose index =>
      rw [perform, choose_shuffle]
      exact session.draws_none
  | snapshot | setState state => exact session.draws_none
  | restore snapshot => exact onward.elim

/-! ## Whole runs -/

/-- The events that fire in random order in the course of some moves, with their reports. -/
def firedIn (session : Session σ) : List (Move σ) → List (Event σ × EventReport)
  | [] => []
  | move :: moves => (session.firedBy? move).toList ++ (session.perform move).2.firedIn moves

theorem after_shuffle {moves : List (Move σ)} (onward : ∀ move ∈ moves, move.Onward) :
    (session.after moves).shuffle = session.shuffle.skip (session.firedIn moves).length := by
  induction moves generalizing session with
  | nil => rfl
  | cons move moves ih =>
      obtain ⟨first, others⟩ := List.forall_mem_cons.1 onward
      rw [after, ih others, (session.draws_perform first).used, firedIn, List.length_append,
        ShuffleState.skip_add]

/-- The event that fires after a number of others gets the order that comes after theirs. -/
theorem applied_of_firedIn {moves : List (Move σ)} (onward : ∀ move ∈ moves, move.Onward)
    {count : Nat} {event : Event σ} {report : EventReport}
    (fired : (session.firedIn moves)[count]? = some (event, report)) :
    report.applied = (session.shuffle.skip count).orderOf event.effects.length := by
  induction moves generalizing session count with
  | nil => contradiction
  | cons move moves ih =>
      obtain ⟨first, others⟩ := List.forall_mem_cons.1 onward
      obtain ⟨ordered, used⟩ := session.draws_perform first
      rw [firedIn] at fired
      cases now : session.firedBy? move with
      | none =>
          rw [now] at fired used
          rw [← show (session.perform move).2.shuffle = session.shuffle from used]
          exact ih others fired
      | some found =>
          rw [now] at fired used
          cases count with
          | zero =>
              cases fired
              exact ordered event report now
          | succ count =>
              rw [ShuffleState.skip_succ,
                ← show (session.perform move).2.shuffle = session.shuffle.next from used]
              exact ih others fired

/-- In a session that was begun with a seed, whatever is done but going back to a snapshot,
also what is refused, the shuffle state consists of that seed and the number of events that
have fired in random order.  Two such sessions, of any stories and any players, apply the
effects of the events that fire as equally many-th ones in the same order, if these have
equally many effects. -/
theorem shuffle_counts_random_events (store : Store σ) (state : σ) (seed : UInt64)
    {moves : List (Move σ)} (onward : ∀ move ∈ moves, move.Onward) :
    let session := (start store state).seed seed
    ((session.after moves).shuffle.seed = seed ∧
      (session.after moves).shuffle.draws.toNat =
        (session.firedIn moves).length % UInt64.size) ∧
    ∀ {τ : Type} [PlayerState τ] (otherStore : Store τ) (otherState : τ)
      {otherMoves : List (Move τ)}, (∀ move ∈ otherMoves, move.Onward) →
      ∀ (count : Nat) (event : Event σ) (otherEvent : Event τ) (report otherReport : EventReport),
        (session.firedIn moves)[count]? = some (event, report) →
        (((start otherStore otherState).seed seed).firedIn otherMoves)[count]? =
          some (otherEvent, otherReport) →
        event.effects.length = otherEvent.effects.length →
        report.applied = otherReport.applied := by
  intro session
  constructor
  · rw [after_shuffle onward, ShuffleState.skip_seed, ShuffleState.skip_draws]
    exact ⟨rfl, congrArg (· % UInt64.size) (Nat.zero_add _)⟩
  · intro τ _ otherStore otherState otherMoves otherOnward count event otherEvent report
      otherReport fired otherFired sameCount
    rw [applied_of_firedIn onward fired, applied_of_firedIn otherOnward otherFired, sameCount]
    rfl

end Session

namespace Sample

/-- An event that always fires in random order. -/
def peal : Event Variables :=
  ⟨"peal", .and, .concurrent, [], [.toggle "rope", .add "rung" 1, .toggle "lamp"]⟩

/-- An event that fires in random order for a player who holds the rope. -/
def gong : Event Variables :=
  ⟨"gong", .or, .concurrent, [.flag "rope"],
    [.set "lamp" (.bool true), .add "rung" 2, .add responsibilityKey (-1)]⟩

def holding : Variables := Variables.empty.set "rope" (.bool true)

end Sample

/-- Two sessions with the seed 5, one of which is refused twice before and between its
events and the other of which has an idle event: each fires two events of three effects, the
second of which is applied in the same order. -/
theorem Session.shuffle_counts_random_events_rung :
    let moves : List (Move Variables) :=
      [.enter "gong", .enter "peal", .advance, .snapshot, .enter "peal"]
    let otherMoves : List (Move Variables) :=
      [.enter "gong", .setState Sample.holding, .enter "gong", .setState Sample.holding,
        .enter "gong"]
    let session := (start (Store.empty.insertEvent Sample.peal) .empty).seed 5
    let other := (start (Store.empty.insertEvent Sample.gong) .empty).seed 5
    (∀ move ∈ moves, move.Onward) ∧ (∀ move ∈ otherMoves, move.Onward) ∧
    (session.after moves).shuffle.draws.toNat = 2 ∧
    ∃ report otherReport,
      (session.firedIn moves)[1]? = some (Sample.peal, report) ∧
      (other.firedIn otherMoves)[1]? = some (Sample.gong, otherReport) ∧
      report.applied = otherReport.applied := by
  intro moves otherMoves session other
  have onward : ∀ move ∈ moves, move.Onward := by simp [moves, Move.Onward]
  have otherOnward : ∀ move ∈ otherMoves, move.Onward := by simp [otherMoves, Move.Onward]
  obtain ⟨⟨_, counted⟩, together⟩ := shuffle_counts_random_events
    (Store.empty.insertEvent Sample.peal) .empty 5 onward
  have twice : (session.firedIn moves).length = 2 := by rfl
  refine ⟨onward, otherOnward, ?_, _, _, rfl, rfl, ?_⟩
  · rw [counted, twice]
    rfl
  · exact together (Store.empty.insertEvent Sample.gong) .empty otherOnward 1
      Sample.peal Sample.gong _ _ rfl rfl rfl

end BranchingStory
