import BranchingStory.Proofs.Event.Application

/-!
# The random orders of events

An event that fires in the random mode uses up one random order, and applies its effects in
it.  No other event takes anything from the shuffle state, whether it fires or not.
-/

namespace BranchingStory

namespace ShuffleState

/-- A number of random orders more have been used. -/
def skip (shuffle : ShuffleState) : Nat → ShuffleState
  | 0 => shuffle
  | count + 1 => shuffle.next.skip count

@[simp] theorem skip_zero (shuffle : ShuffleState) : shuffle.skip 0 = shuffle := by rfl

@[simp] theorem skip_succ (shuffle : ShuffleState) (count : Nat) :
    shuffle.skip (count + 1) = shuffle.next.skip count := by rfl

theorem skip_add (shuffle : ShuffleState) (first second : Nat) :
    shuffle.skip (first + second) = (shuffle.skip first).skip second := by
  induction first generalizing shuffle with
  | zero => rw [Nat.zero_add, skip_zero]
  | succ first ih => rw [Nat.succ_add, skip_succ, skip_succ, ih]

theorem skip_seed (shuffle : ShuffleState) (count : Nat) :
    (shuffle.skip count).seed = shuffle.seed := by
  induction count generalizing shuffle with
  | zero => rfl
  | succ count ih => exact ih shuffle.next

/-- The count of draws begins anew after the greatest number of 64 bits. -/
theorem skip_draws (shuffle : ShuffleState) (count : Nat) :
    (shuffle.skip count).draws.toNat = (shuffle.draws.toNat + count) % UInt64.size := by
  induction count generalizing shuffle with
  | zero => exact (Nat.mod_eq_of_lt shuffle.draws.toNat_lt).symm
  | succ count ih =>
      have next : shuffle.next.draws.toNat = (shuffle.draws.toNat + 1) % UInt64.size :=
        UInt64.toNat_add _ _
      rw [skip_succ, ih, next, Nat.mod_add_mod, Nat.add_assoc, Nat.add_comm 1 count]

/-- The order in which a number of effects are applied next. -/
def orderOf (shuffle : ShuffleState) (count : Nat) : List Nat :=
  Shuffle.order (.ofSeed shuffle.orderSeed) count

end ShuffleState

variable {σ : Type} [PlayerState σ] {event : Event σ}

/-- An event has fired in random order, with a report. -/
def Event.FiredAtRandom (event : Event σ) (report : EventReport) : Prop :=
  event.mode = .concurrent ∧ report.fired = true

instance (event : Event σ) (report : EventReport) : Decidable (event.FiredAtRandom report) :=
  inferInstanceAs (Decidable (_ ∧ _))

/-- What an event that fires in random order takes from the shuffle state. -/
theorem Event.apply_of_firedAtRandom {shuffle : ShuffleState} {state : σ}
    {report : EventReport} (answered : (event.apply shuffle state).1 = .ok report)
    (fired : event.FiredAtRandom report) :
    report.applied = shuffle.orderOf event.effects.length ∧
      (event.apply shuffle state).2.1 = shuffle.next := by
  obtain ⟨concurrent, fired⟩ := fired
  by_cases playable : event.Playable
  · by_cases fires : event.Holds state
    · have order : event.nextOrder shuffle =
          (shuffle.orderOf event.effects.length, shuffle.next) := by
        simp only [nextOrder, concurrent, ShuffleState.orderOf]
      rw [apply_of_holds shuffle playable fires, order] at answered ⊢
      cases answered
      exact ⟨rfl, rfl⟩
    · rw [apply_of_not_holds playable fires] at answered
      cases answered
      contradiction
  · obtain ⟨error, refused⟩ := (event.apply_refused_iff shuffle state).2 playable
    rw [refused] at answered
    contradiction

/-- A refused event leaves everything as it is. -/
theorem Event.apply_of_not_playable (unknown : ¬event.Playable) (shuffle : ShuffleState)
    (state : σ) : (event.apply shuffle state).2 = (shuffle, state) := by
  cases mode : event.mode with
  | unrecognized tag => rw [apply_of_unknown_mode mode]
  | sequential | concurrent =>
      have known : ∀ tag, event.mode ≠ .unrecognized tag := by simp [mode]
      cases logic : event.logic with
      | unrecognized tag => rw [apply_of_unknown_logic known logic]
      | and | or => exact absurd ⟨by simp [logic], known⟩ unknown

/-- An event that does not fire in random order takes nothing from the shuffle state. -/
theorem Event.apply_of_not_firedAtRandom {shuffle : ShuffleState} {state : σ}
    (other : ∀ report, (event.apply shuffle state).1 = .ok report →
      ¬event.FiredAtRandom report) : (event.apply shuffle state).2.1 = shuffle := by
  by_cases playable : event.Playable
  · by_cases fires : event.Holds state
    · rw [apply_of_holds shuffle playable fires] at other ⊢
      have orderly : event.mode ≠ .concurrent :=
        fun concurrent => other _ rfl ⟨concurrent, rfl⟩
      cases mode : event.mode with
      | concurrent => contradiction
      | sequential | unrecognized tag => simp only [nextOrder, mode]
    · rw [apply_of_not_holds playable fires]
  · exact congrArg Prod.fst (apply_of_not_playable playable shuffle state)

end BranchingStory
