import BranchingStory.Proofs.Session.Run

/-!
# Restoring what a session is

A snapshot keeps the id of the node at hand, the line in it and the shuffle state.  In a
coherent session these determine the whole position, so restoring the snapshot elsewhere,
over the same store and with the same state of the player, gives back the session itself.
-/

namespace BranchingStory.Session

variable {σ : Type} {session other : Session σ}

/-- A step that presents what a session has at hand: the line at which it is, or the
choice at which it is with the options that are open now. -/
inductive Presents [PlayerState σ] (session : Session σ) : Option Step → Prop where
  | nothing (atHand : session.position = .idle) : Presents session none
  | line {dialogue : Dialogue} {index : Nat} (inside : index < dialogue.lines.length)
      (atHand : session.position = .dialogue ⟨dialogue, .atLine index⟩) :
      Presents session (some (.line dialogue.id index dialogue.lines[index]))
  | choice {choice : Choice} (atHand : session.position = .choice choice) :
      Presents session (some (.choice choice (choice.openLines session.state)))

/-- A snapshot stands for a session when it names the same node and line, and leaves the
shuffle state of the session once the one it carries, if any, is taken over. -/
structure StandsFor (snapshot : Snapshot) (kept : ShuffleState) (session : Session σ) :
    Prop where
  node : snapshot.node = session.snapshot.node
  line : snapshot.line = session.snapshot.line
  shuffle : snapshot.shuffle.getD kept = session.shuffle

/-- The session's own snapshot stands for it, whatever the shuffle state elsewhere is. -/
theorem snapshot_standsFor (session : Session σ) (kept : ShuffleState) :
    StandsFor session.snapshot kept session := by
  refine ⟨rfl, rfl, ?_⟩
  unfold snapshot
  split <;> rfl

/-- The snapshot does not depend on the player's state. -/
theorem StandsFor.setState {snapshot : Snapshot} {kept : ShuffleState}
    (stands : StandsFor snapshot kept session) (state : σ) :
    StandsFor snapshot kept (session.setState state) :=
  ⟨stands.node, stands.line, stands.shuffle⟩

variable [PlayerState σ]

theorem restore_of_idle (other : Session σ) {snapshot : Snapshot}
    (idle : snapshot.node = none) :
    other.restore snapshot =
      (.ok none,
        { other with shuffle := snapshot.shuffle.getD other.shuffle, position := .idle }) := by
  obtain ⟨node, line, shuffle⟩ := snapshot
  obtain rfl : node = none := idle
  cases shuffle <;> rfl

/-- The shuffle state of the snapshot is taken over before its node. -/
theorem restore_of_node (other : Session σ) {snapshot : Snapshot} {id : String}
    (named : snapshot.node = some id) :
    other.restore snapshot =
      let taken := { other with shuffle := snapshot.shuffle.getD other.shuffle }.takeUp
        id snapshot.line
      (taken.1.map some, taken.2) := by
  obtain ⟨node, line, shuffle⟩ := snapshot
  obtain rfl : node = some id := named
  cases shuffle <;> rfl

/-- Restoring a snapshot that stands for a coherent session gives that session. -/
theorem Coherent.restore_of_standsFor (coherent : session.Coherent) (other : Session σ)
    {snapshot : Snapshot} (sameStore : other.store = session.store)
    (sameState : other.state = session.state)
    (stands : StandsFor snapshot other.shuffle session) :
    ∃ shown, other.restore snapshot = (.ok shown, session) ∧ session.Presents shown := by
  obtain ⟨store, state, shuffle, position⟩ := session
  obtain ⟨otherStore, otherState, otherShuffle, otherPosition⟩ := other
  obtain ⟨node, line, carried⟩ := snapshot
  obtain ⟨sameNode, sameLine, sameShuffle⟩ := stands
  obtain rfl : otherStore = store := sameStore
  obtain rfl : otherState = state := sameState
  obtain rfl : carried.getD otherShuffle = shuffle := sameShuffle
  have anchored := coherent.anchored
  cases anchored with
  | idle =>
      refine ⟨none, ?_, .nothing rfl⟩
      rw [restore_of_idle _ sameNode]
  | @dialogue dialogue index found inside =>
      obtain rfl : line = some index := sameLine
      refine ⟨_, ?_, .line inside rfl⟩
      rw [restore_of_node _ sameNode,
        takeUp_of_line ⟨otherStore, otherState, _, otherPosition⟩ found inside]
      rfl
  | @choice choice found =>
      obtain rfl : line = none := sameLine
      refine ⟨_, ?_, .choice rfl⟩
      rw [restore_of_node _ sameNode,
        takeUp_of_choice ⟨otherStore, otherState, _, otherPosition⟩ found]
      rfl

/-- A snapshot of any session that a run has led to can be restored in any other session
over the same store with the same state of the player, wherever that one stands and
whatever random orders it has used.  It leaves the player's state alone and gives what the
first session has at hand, and from then on nothing distinguishes the two. -/
theorem restore_snapshot_transparent {store : Store σ} (constructed : store.Constructed)
    (reached : session.ReachedIn store) (sameStore : other.store = store)
    (sameState : other.state = session.state) :
    (∃ shown, (other.restore session.snapshot).1 = .ok shown ∧ session.Presents shown) ∧
    (other.restore session.snapshot).2.state = other.state ∧
    ∀ moves, (other.restore session.snapshot).2.observe moves = session.observe moves := by
  have coherent := reached.coherent constructed.keyed
  obtain ⟨shown, restored, presents⟩ := coherent.restore_of_standsFor other
    (sameStore.trans reached.store_eq.symm) sameState
    (session.snapshot_standsFor other.shuffle)
  rw [restored]
  exact ⟨⟨shown, rfl, presents⟩, sameState.symm, fun moves => rfl⟩

/-- A session in the middle of a dialogue is taken over by one that stands at a choice and
has another seed. -/
theorem restore_snapshot_transparent_mid_dialogue :
    let played := ((start Sample.store .empty).seed 5).after [.enter "dock", .advance]
    let elsewhere := ((start Sample.store .empty).seed 8).after [.enter "route"]
    played.snapshot = ⟨some "dock", some 1, some ⟨5, 0⟩⟩ ∧
    elsewhere.snapshot = ⟨some "route", none, some ⟨8, 0⟩⟩ ∧
    (∃ shown, (elsewhere.restore played.snapshot).1 = .ok shown ∧ played.Presents shown) ∧
    (elsewhere.restore played.snapshot).2.state = elsewhere.state ∧
    ∀ moves, (elsewhere.restore played.snapshot).2.observe moves = played.observe moves :=
  ⟨by decide +kernel, by decide +kernel,
    restore_snapshot_transparent Sample.store_constructed ⟨.empty, 5, _, rfl⟩ rfl rfl⟩

end BranchingStory.Session
