import BranchingStory.Proofs.Shuffle.Order
import BranchingStory.Proofs.Validation.Playable

/-!
# Applying an event

An event with an unknown tag is refused and one whose conditions do not hold is idle;
either way nothing has happened.  One that fires applies each of its effects once, in the
order that it reports, and only the random mode uses up an order.
-/

namespace BranchingStory

variable {σ : Type}

theorem Event.nextOrder_perm (event : Event σ) (shuffle : ShuffleState) :
    (event.nextOrder shuffle).1.Perm (List.range event.effects.length) := by
  unfold nextOrder
  cases event.mode with
  | concurrent => exact Shuffle.order_perm _ _
  | sequential | unrecognized tag => exact .refl _

variable [PlayerState σ]

/-- Applies effects one after another. -/
def Effect.applyAll (state : σ) (effects : List (Effect σ)) : σ :=
  effects.foldl (fun state effect => effect.apply state) state

namespace Event

variable {event : Event σ} {shuffle : ShuffleState} {state : σ}

/-- The conditions hold under the logic: all of them, or one of them. -/
def Holds (event : Event σ) (state : σ) : Prop :=
  match event.logic with
  | .and => ∀ condition ∈ event.conditions, condition.holds state = true
  | .or => ∃ condition ∈ event.conditions, condition.holds state = true
  | .unrecognized _ => False

theorem evaluate_of_known (known : ∀ tag, event.logic ≠ .unrecognized tag) (state : σ) :
    ∃ fires, event.evaluate state = .ok fires ∧ (fires = true ↔ event.Holds state) := by
  unfold evaluate Holds
  cases logic : event.logic with
  | and => exact ⟨_, rfl, List.all_eq_true⟩
  | or => exact ⟨_, rfl, List.any_eq_true⟩
  | unrecognized tag => exact absurd logic (known tag)

/-! ## What can become of an event -/

theorem apply_of_unknown_mode {tag : String} (unknown : event.mode = .unrecognized tag) :
    event.apply shuffle state = (.error (.invalidMode tag), shuffle, state) := by
  simp only [apply, unknown]

theorem apply_of_unknown_logic (known : ∀ tag, event.mode ≠ .unrecognized tag)
    {tag : String} (unknown : event.logic = .unrecognized tag) :
    event.apply shuffle state = (.error (.invalidLogic tag), shuffle, state) := by
  have refused : event.evaluate state = .error (.invalidLogic tag) := by
    simp only [evaluate, unknown]
  cases mode : event.mode with
  | sequential => simp only [apply, mode, refused]
  | concurrent => simp only [apply, mode, refused]
  | unrecognized tag => exact absurd mode (known tag)

theorem apply_of_not_holds (playable : event.Playable) (idle : ¬event.Holds state) :
    event.apply shuffle state =
      (.ok ⟨false, [], event.conditionCalls state⟩, shuffle, state) := by
  obtain ⟨fires, evaluated, holds⟩ := evaluate_of_known playable.logic state
  cases fires with
  | true => exact absurd (holds.1 rfl) idle
  | false =>
      cases mode : event.mode with
      | sequential => simp only [apply, mode, evaluated]
      | concurrent => simp only [apply, mode, evaluated]
      | unrecognized tag => exact absurd mode (playable.mode tag)

theorem apply_of_holds (shuffle : ShuffleState) (playable : event.Playable)
    (fires : event.Holds state) :
    event.apply shuffle state =
      (.ok ⟨true, (event.nextOrder shuffle).1, event.conditionCalls state ++
          event.effectCalls (event.nextOrder shuffle).1⟩,
        (event.nextOrder shuffle).2,
        event.applyInOrder state (event.nextOrder shuffle).1) := by
  obtain ⟨settled, evaluated, holds⟩ := evaluate_of_known playable.logic state
  obtain rfl : settled = true := holds.2 fires
  cases mode : event.mode with
  | sequential => simp only [apply, mode, evaluated]
  | concurrent => simp only [apply, mode, evaluated]
  | unrecognized tag => exact absurd mode (playable.mode tag)

/-- Whether an event is refused does not depend on the player's state. -/
theorem apply_refused_iff (event : Event σ) (shuffle : ShuffleState) (state : σ) :
    (∃ error, (event.apply shuffle state).1 = .error error) ↔ ¬event.Playable := by
  constructor
  · rintro ⟨error, refused⟩ playable
    by_cases fires : event.Holds state
    · rw [apply_of_holds shuffle playable fires] at refused
      contradiction
    · rw [apply_of_not_holds playable fires] at refused
      contradiction
  · intro unknown
    cases mode : event.mode with
    | unrecognized tag => exact ⟨_, by rw [apply_of_unknown_mode mode]⟩
    | sequential | concurrent =>
        have known : ∀ tag, event.mode ≠ .unrecognized tag := by simp [mode]
        cases logic : event.logic with
        | unrecognized tag => exact ⟨_, by rw [apply_of_unknown_logic known logic]⟩
        | and | or => exact absurd ⟨by simp [logic], known⟩ unknown

/-! ## The effects at some indices -/

/-- Applying the effects at some indices is applying the effects that stand there. -/
theorem applyInOrder_eq_applyAll (event : Event σ) (state : σ) {order : List Nat}
    (inside : ∀ index ∈ order, index < event.effects.length) :
    ∃ ran, order.map (fun index => event.effects[index]?) = ran.map some ∧
      event.applyInOrder state order = Effect.applyAll state ran := by
  induction order generalizing state with
  | nil => exact ⟨[], rfl, rfl⟩
  | cons index order ih =>
      obtain ⟨first, others⟩ := List.forall_mem_cons.1 inside
      have found : event.effects[index]? = some event.effects[index] :=
        List.getElem?_eq_getElem first
      obtain ⟨ran, named, applied⟩ := ih (event.effects[index].apply state) others
      refine ⟨event.effects[index] :: ran, ?_, ?_⟩
      · simp only [List.map_cons, found, named]
      · simp only [applyInOrder, Effect.applyAll, List.foldl_cons, found] at applied ⊢
        exact applied

/-- An event is applied as a whole or not at all.  With an unknown tag it is refused, and
without its conditions it is idle; both leave the player's state and the shuffle state as
they were.  Otherwise it fires: the report names each effect once, and the state is what
the effects make of it in the reported order.  In sequence that is the written order and no
random order is used; in the random mode one is used up, also when there is nothing to
exchange. -/
theorem apply_all_or_nothing (event : Event σ) (shuffle : ShuffleState) (state : σ) :
    (∀ tag, event.mode = .unrecognized tag →
      event.apply shuffle state = (.error (.invalidMode tag), shuffle, state)) ∧
    (∀ tag, (∀ other, event.mode ≠ .unrecognized other) → event.logic = .unrecognized tag →
      event.apply shuffle state = (.error (.invalidLogic tag), shuffle, state)) ∧
    (event.Playable → ¬event.Holds state →
      ∃ report, event.apply shuffle state = (.ok report, shuffle, state) ∧
        report.fired = false ∧ report.applied = []) ∧
    (event.Playable → event.Holds state →
      ∃ report after ran,
        event.apply shuffle state = (.ok report, after, Effect.applyAll state ran) ∧
        report.fired = true ∧
        report.applied.Perm (List.range event.effects.length) ∧
        report.applied.map (fun index => event.effects[index]?) = ran.map some ∧
        (event.mode = .sequential →
          report.applied = List.range event.effects.length ∧ after = shuffle) ∧
        (event.mode = .concurrent →
          after.seed = shuffle.seed ∧
            after.draws.toNat = (shuffle.draws.toNat + 1) % UInt64.size)) := by
  refine ⟨fun tag unknown => apply_of_unknown_mode unknown,
    fun tag known unknown => apply_of_unknown_logic known unknown, ?_, ?_⟩
  · intro playable idle
    exact ⟨_, apply_of_not_holds playable idle, rfl, rfl⟩
  · intro playable fires
    have perm := event.nextOrder_perm shuffle
    obtain ⟨ran, named, applied⟩ := event.applyInOrder_eq_applyAll state
      (fun index member => List.mem_range.1 (perm.mem_iff.1 member))
    have fired := apply_of_holds shuffle playable fires
    rw [applied] at fired
    refine ⟨_, _, ran, fired, rfl, perm, named, ?_, ?_⟩
    · intro sequential
      simp only [nextOrder, sequential, and_self]
    · intro concurrent
      simp only [nextOrder, concurrent, ShuffleState.next]
      exact ⟨trivial, UInt64.toNat_add _ _⟩

/-- Three effects in random order, one of them the host's, at the last draw before the
count of draws begins anew. -/
theorem apply_all_or_nothing_bells :
    let bells : Event Variables := ⟨"bells", .or, .concurrent,
      [.flag "rope", .host "tide" fun _ => true],
      [.add "rung" 1, .toggle "rope", .host "echo" fun state => state.set "echo" (.int 1)]⟩
    bells.Playable ∧ bells.Holds .empty ∧
    ∃ report after ran,
      bells.apply ⟨5, 0xFFFFFFFFFFFFFFFF⟩ .empty =
        (.ok report, after, Effect.applyAll .empty ran) ∧
      report.fired = true ∧ report.applied.Perm [0, 1, 2] ∧
      report.applied.map (fun index => bells.effects[index]?) = ran.map some ∧
      after.seed = 5 ∧ after.draws.toNat = 0 := by
  intro bells
  have playable : bells.Playable :=
    ⟨fun _ => Logic.noConfusion, fun _ => Mode.noConfusion⟩
  have fires : bells.Holds .empty :=
    ⟨.host "tide" fun _ => true, List.mem_cons_of_mem _ List.mem_cons_self, rfl⟩
  obtain ⟨_, _, _, whole⟩ := apply_all_or_nothing bells ⟨5, 0xFFFFFFFFFFFFFFFF⟩ .empty
  obtain ⟨report, after, ran, applied, fired, perm, named, _, random⟩ := whole playable fires
  obtain ⟨seed, draws⟩ := random rfl
  exact ⟨playable, fires, report, after, ran, applied, fired, perm, named, seed, draws⟩

end Event

end BranchingStory
