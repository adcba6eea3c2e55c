import BranchingStory.Proofs.Session.Restore

/-!
# Snapshots that are refused

A snapshot that names a node which is not there, an event, a dialogue without one of its
lines, or a choice with a line is refused, and no other is.  A session that refuses it stays
where it is, and so does the player's state.  The shuffle state does not: it is taken over
before the node is looked up.  So a refused snapshot leaves no trace only where it carries no
shuffle state, or the one that the session has.
-/

namespace BranchingStory.Session

variable {σ : Type} [PlayerState σ] {session : Session σ} {snapshot : Snapshot}
  {error : StoryError}

theorem restore_of_unfit {id : String} (named : snapshot.node = some id)
    (unfit : session.store.Unfit id snapshot.line error) :
    session.restore snapshot =
      (.error error, { session with shuffle := snapshot.shuffle.getD session.shuffle }) := by
  have refused := takeUp_of_unfit
    { session with shuffle := snapshot.shuffle.getD session.shuffle } unfit
  rw [restore_of_node session named]
  simp only [refused]
  rfl

theorem unfit_of_takeUp {id : String} {line : Option Nat}
    (refused : (session.takeUp id line).1 = .error error) :
    session.store.Unfit id line error := by
  have moved := session.takesUp id line
  generalize session.takeUp id line = result at moved refused
  cases moved with
  | refused unfit =>
      cases refused
      exact unfit
  | line found inside | choice found => contradiction

theorem exists_unfit_of_restore (refused : (session.restore snapshot).1 = .error error) :
    ∃ id, snapshot.node = some id ∧ session.store.Unfit id snapshot.line error := by
  cases named : snapshot.node with
  | none =>
      rw [restore_of_idle session named] at refused
      contradiction
  | some id =>
      rw [restore_of_node session named] at refused
      -- The node is looked up in the store, which the new shuffle state does not touch.
      cases answered : (({ session with
          shuffle := snapshot.shuffle.getD session.shuffle } : Session σ).takeUp
            id snapshot.line).1 with
      | error first =>
          simp only [answered] at refused
          cases refused
          have unfit := unfit_of_takeUp answered
          exact ⟨id, rfl, unfit⟩
      | ok step =>
          simp only [answered] at refused
          contradiction

/-- A session refuses a snapshot exactly when its node is not to be taken up at its line.
What it has is then kept, all but the shuffle state, for which that of the snapshot is taken
if it carries one. -/
theorem restore_refused (session : Session σ) (snapshot : Snapshot) :
    (∀ error, (session.restore snapshot).1 = .error error ↔
      ∃ id, snapshot.node = some id ∧ session.store.Unfit id snapshot.line error) ∧
    ∀ error, (session.restore snapshot).1 = .error error →
      (session.restore snapshot).2.store = session.store ∧
      (session.restore snapshot).2.state = session.state ∧
      (session.restore snapshot).2.position = session.position ∧
      (session.restore snapshot).2.shuffle = snapshot.shuffle.getD session.shuffle ∧
      ((session.restore snapshot).2 = session ↔
        ∀ carried, snapshot.shuffle = some carried → carried = session.shuffle) := by
  constructor
  · intro error
    constructor
    · exact exists_unfit_of_restore
    · rintro ⟨id, named, unfit⟩
      rw [restore_of_unfit named unfit]
  · intro error refused
    obtain ⟨id, named, unfit⟩ := exists_unfit_of_restore refused
    rw [restore_of_unfit named unfit]
    refine ⟨rfl, rfl, rfl, rfl, ?_⟩
    constructor
    · intro same carried carries
      have shuffle := congrArg Session.shuffle same
      simp only [carries, Option.getD_some] at shuffle
      exact shuffle
    · intro same
      have shuffle : snapshot.shuffle.getD session.shuffle = session.shuffle := by
        cases carries : snapshot.shuffle with
        | none => rfl
        | some carried => exact same carried carries
      rw [shuffle]

/-- A snapshot of a line that is not there, without a shuffle state, leaves no trace. -/
theorem restore_refused_line :
    let session := ((start Sample.store .empty).seed 5).after [.enter "dock"]
    let snapshot : Snapshot := ⟨some "dock", some 9, none⟩
    (session.restore snapshot).1 = .error (.invalidState (.lineOutOfRange 9 "dock" 2)) ∧
    (session.restore snapshot).2 = session := by
  intro session snapshot
  obtain ⟨refuses, kept⟩ := restore_refused session snapshot
  have found : session.store.node? "dock" = some (.dialogue Sample.dock) := rfl
  have refused := (refuses _).2 ⟨"dock", rfl, .outside found (by decide)⟩
  exact ⟨refused, (kept _ refused).2.2.2.2.2 fun _ carries => by contradiction⟩

/-- A refused snapshot may change the shuffle state of a playthrough, and with it the order
of the effects that are still to come. -/
theorem restore_refused_attic :
    ¬∀ session : Session Variables, session.ReachedIn Sample.store →
      ∀ (snapshot : Snapshot) (error : StoryError),
        (session.restore snapshot).1 = .error error →
          (session.restore snapshot).2.position = session.position ∧
          (session.restore snapshot).2.state = session.state ∧
          (session.restore snapshot).2.shuffle = session.shuffle := by
  intro unchanged
  have refused : (((start Sample.store .empty).seed 5).restore
      ⟨some "attic", none, some ⟨9, 4⟩⟩).1 = .error (.notFound .node "attic") := rfl
  have reached : ((start Sample.store .empty).seed 5).ReachedIn Sample.store :=
    ⟨.empty, 5, [], rfl⟩
  obtain ⟨_, _, shuffle⟩ := unchanged _ reached _ _ refused
  have overwritten : (⟨9, 4⟩ : ShuffleState) = ⟨5, 0⟩ := shuffle
  contradiction

end BranchingStory.Session
