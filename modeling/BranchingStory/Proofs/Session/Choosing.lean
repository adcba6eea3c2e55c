import Mathlib.Data.List.Basic
import BranchingStory.Proofs.Session.Transitions

/-!
# Options at the moment of choosing

A listing and a choice that is made look at the same player, so they agree as long as the
player is the same: what is listed can be taken, with the outcome of its line, and nothing
else can.  A player whose score counts for more is offered what the other is offered, in the
same order, and perhaps more.

Between entering a choice and choosing the player may change.  What counts then is the player
at the moment of choosing and not the one for whom the options were listed.  An option that
is refused changes nothing, so the choice is still there to be made, perhaps by a player who
has changed again.
-/

namespace BranchingStory

variable {σ : Type} [PlayerState σ]

/-! ## Listing and taking -/

/-- A line is open to a player: its gate is not above the host's answer for the score, which
counts as nought where it is negative. -/
def ChoiceLine.OpenIn (line : ChoiceLine) (state : σ) : Prop :=
  line.minResponsibility.toInt ≤ max (PlayerState.responsibility state).toInt 0

instance (line : ChoiceLine) (state : σ) : Decidable (line.OpenIn state) :=
  inferInstanceAs (Decidable (_ ≤ _))

/-- An outcome has the fields of a line, and a step of the tutorial where that of the line is
not negative. -/
structure Outcome.IsOf (outcome : Outcome) (line : ChoiceLine) : Prop where
  next : outcome.next = line.next
  classification : outcome.classification = line.classification
  tutorialSkip : ∀ step : Nat,
    outcome.tutorialSkip = some step ↔ line.tutorialSkip.toInt = step

/-- What a listing says and what can be taken, for one player. -/
structure Choice.Agrees (choice : Choice) (state : σ) : Prop where
  increasing : (choice.openLines state).Pairwise fun left right => left.index < right.index
  listed_iff : ∀ index line, (⟨index, line⟩ : OpenLine) ∈ choice.openLines state ↔
    choice.lines[index]? = some line ∧ line.OpenIn state
  taken_iff : ∀ index outcome, choice.resolve index state = .ok outcome ↔
    ∃ line, (⟨index, line⟩ : OpenLine) ∈ choice.openLines state ∧ outcome.IsOf line
  refused_iff : ∀ index error, choice.resolve index state = .error error ↔
    (∀ line, (⟨index, line⟩ : OpenLine) ∉ choice.openLines state) ∧
      error = .invalidSelection choice.id index

theorem ChoiceLine.isOpenTo_gateScore_iff {line : ChoiceLine} {state : σ} :
    line.isOpenTo (gateScore state) = true ↔ line.OpenIn state := by
  rw [isOpenTo_iff, gateScore_toInt, OpenIn]

theorem ChoiceLine.tutorialSkipIndex?_eq_some_iff {line : ChoiceLine} {step : Nat} :
    line.tutorialSkipIndex? = some step ↔ line.tutorialSkip.toInt = step := by
  unfold tutorialSkipIndex?
  by_cases negative : line.tutorialSkip < 0
  · have below := Int32.lt_iff_toInt_lt.1 negative
    rw [Int32.toInt_zero] at below
    rw [if_pos negative]
    constructor
    · intro taken
      contradiction
    · intro same
      omega
  · have notBelow := mt Int32.lt_iff_toInt_lt.2 negative
    rw [Int32.toInt_zero] at notBelow
    rw [if_neg negative, Option.some.injEq]
    omega

theorem Outcome.isOf_iff {outcome : Outcome} {line : ChoiceLine} :
    outcome.IsOf line ↔ outcome = line.outcome := by
  constructor
  · rintro ⟨next, classification, skips⟩
    have skip : outcome.tutorialSkip = line.tutorialSkipIndex? := by
      apply Option.ext
      intro step
      rw [skips, ChoiceLine.tutorialSkipIndex?_eq_some_iff]
    rw [ChoiceLine.outcome, ← next, ← classification, ← skip]
  · rintro rfl
    exact ⟨rfl, rfl, fun step => ChoiceLine.tutorialSkipIndex?_eq_some_iff⟩

theorem Choice.resolve_ok_iff {choice : Choice} {state : σ} {index : Nat} {outcome : Outcome} :
    choice.resolve index state = .ok outcome ↔
      ∃ line, (⟨index, line⟩ : OpenLine) ∈ choice.openLines state ∧ outcome.IsOf line := by
  constructor
  · intro resolved
    by_cases listed : ∃ line, (⟨index, line⟩ : OpenLine) ∈ choice.openLines state
    · obtain ⟨line, listed⟩ := listed
      cases (resolve_of_listed listed).symm.trans resolved
      exact ⟨line, listed, Outcome.isOf_iff.2 rfl⟩
    · cases (resolve_of_not_listed (not_exists.1 listed)).symm.trans resolved
  · rintro ⟨line, listed, isOf⟩
    rw [resolve_of_listed listed, Outcome.isOf_iff.1 isOf]

theorem Choice.resolve_error_iff {choice : Choice} {state : σ} {index : Nat}
    {error : StoryError} :
    choice.resolve index state = .error error ↔
      (∀ line, (⟨index, line⟩ : OpenLine) ∉ choice.openLines state) ∧
        error = .invalidSelection choice.id index := by
  constructor
  · intro refused
    have closed : ∀ line, (⟨index, line⟩ : OpenLine) ∉ choice.openLines state := by
      intro line listed
      cases (resolve_of_listed listed).symm.trans refused
    cases (resolve_of_not_listed closed).symm.trans refused
    exact ⟨closed, rfl⟩
  · rintro ⟨closed, rfl⟩
    exact resolve_of_not_listed closed

theorem Choice.agrees (choice : Choice) (state : σ) : choice.Agrees state where
  increasing := choice.openLines_increasing state
  listed_iff _ _ := by rw [mem_openLines, ChoiceLine.isOpenTo_gateScore_iff]
  taken_iff _ _ := resolve_ok_iff
  refused_iff _ _ := resolve_error_iff

theorem Choice.openLines_sublist {τ : Type} [PlayerState τ] (choice : Choice) {low : σ}
    {high : τ} (le : gateScore low ≤ gateScore high) :
    (choice.openLines low).Sublist (choice.openLines high) := by
  have restricted := List.monotone_filter_right choice.lines.zipIdx
    fun entry (isOpen : entry.1.isOpenTo (gateScore low) = true) =>
      ChoiceLine.isOpenTo_mono le isOpen
  exact restricted.map _

/-! ## A choice at hand -/

namespace Session

variable {session : Session σ} {choice : Choice}

/-- A session offers a choice: it takes the lines that are open to the player as the player
is now, and a refused index leaves it as it is. -/
structure Offers (session : Session σ) (choice : Choice) : Prop where
  atHand : session.position = .choice choice
  taken_iff : ∀ index outcome, (session.choose index).1 = .ok outcome ↔
    ∃ line, choice.lines[index]? = some line ∧ line.OpenIn session.state ∧ outcome.IsOf line
  refused_iff : ∀ index error, (session.choose index).1 = .error error ↔
    (∀ line, choice.lines[index]? = some line → ¬line.OpenIn session.state) ∧
      error = .invalidSelection choice.id index
  unchanged : ∀ index error, (session.choose index).1 = .error error →
    (session.choose index).2 = session

theorem choose_fst_of_choice (atHand : session.position = .choice choice) (index : Nat) :
    (session.choose index).1 = choice.resolve index session.state := by
  cases resolved : choice.resolve index session.state with
  | error error => rw [choose_of_refused atHand resolved]
  | ok outcome => rw [choose_of_open atHand resolved]

theorem offers (atHand : session.position = .choice choice) : session.Offers choice where
  atHand := atHand
  taken_iff index outcome := by
    simp only [choose_fst_of_choice atHand, Choice.resolve_ok_iff,
      (choice.agrees session.state).listed_iff, and_assoc]
  refused_iff index error := by
    simp only [choose_fst_of_choice atHand, Choice.resolve_error_iff,
      (choice.agrees session.state).listed_iff, not_and]
  unchanged index _ refused := (session.chooses index).refused_session refused

/-- Moves by which a choice stays at hand: no node is entered or gone back to, and no option
is taken.  Options may be refused, and the player's state may change in any way. -/
structure Awaits (session : Session σ) (moves : List (Move σ)) : Prop where
  stays : ∀ move ∈ moves, (∀ id, move ≠ .enter id) ∧ ∀ snapshot, move ≠ .restore snapshot
  untaken : ∀ seen ∈ session.observe moves, ∀ outcome, seen.answer ≠ .outcome (.ok outcome)

theorem Awaits.rest {move : Move σ} {moves : List (Move σ)}
    (awaits : session.Awaits (move :: moves)) : (session.perform move).2.Awaits moves :=
  ⟨fun later member => awaits.stays later (List.mem_cons_of_mem _ member),
    fun seen member => awaits.untaken seen (List.mem_cons_of_mem _ member)⟩

/-- One move of a host that waits keeps the choice at hand. -/
theorem Awaits.position_perform {move : Move σ} {moves : List (Move σ)}
    (awaits : session.Awaits (move :: moves)) (atHand : session.position = .choice choice) :
    (session.perform move).2.position = .choice choice := by
  obtain ⟨notEntered, notRestored⟩ := awaits.stays move List.mem_cons_self
  cases move with
  | enter id => exact absurd rfl (notEntered id)
  | restore snapshot => exact absurd rfl (notRestored snapshot)
  | advance => simp only [perform, advance, atHand]
  | choose index =>
      -- Only an option that is taken would leave the choice.
      cases resolved : choice.resolve index session.state with
      | error error =>
          simp only [perform, choose_of_refused atHand resolved]
          exact atHand
      | ok outcome =>
          have answered : (session.choose index).1 = .ok outcome := by
            rw [choose_of_open atHand resolved]
          have taken := awaits.untaken _ List.mem_cons_self outcome
          exact absurd (congrArg Answer.outcome answered) taken
  | snapshot | setState state => exact atHand

/-- So do any number of moves. -/
theorem Awaits.position_after {moves : List (Move σ)} (awaits : session.Awaits moves)
    (atHand : session.position = .choice choice) :
    (session.after moves).position = .choice choice := by
  induction moves generalizing session with
  | nil => exact atHand
  | cons move moves ih => exact ih awaits.rest (awaits.position_perform atHand)

theorem position_enter_of_choice {id : String}
    (found : session.store.node? id = some (.choice choice)) :
    (session.enter id).2.position = .choice choice := by
  rw [enter_of_choice found]

/-- Listing and taking agree for every player, and a player whose score counts for no less is
offered no less.  Any session at a choice takes the lines that are open to the player at that
moment.  In every run, whatever came before a choice was entered, however the player has
changed since and however many options have been refused, the choice is still at hand. -/
theorem choosing_agrees :
    (∀ (choice : Choice) (state : σ), choice.Agrees state) ∧
    (∀ {τ : Type} [PlayerState τ] (choice : Choice) (low : σ) (high : τ),
      max (PlayerState.responsibility low).toInt 0 ≤
        max (PlayerState.responsibility high).toInt 0 →
      (choice.openLines low).Sublist (choice.openLines high)) ∧
    (∀ (session : Session σ) (choice : Choice), session.position = .choice choice →
      session.Offers choice) ∧
    ∀ (store : Store σ) (state : σ) (seed : UInt64) (before : List (Move σ)) (id : String)
      (choice : Choice), store.node? id = some (.choice choice) →
      ∀ moves : List (Move σ),
        ((((start store state).seed seed).after before).enter id).2.Awaits moves →
        (((((start store state).seed seed).after before).enter id).2.after moves).Offers
          choice := by
  refine ⟨Choice.agrees, ?_, fun _ _ atHand => offers atHand, ?_⟩
  · intro τ _ choice low high le
    rw [← gateScore_toInt, ← gateScore_toInt, ← Int64.le_iff_toInt_le] at le
    exact choice.openLines_sublist le
  · intro store state seed before id choice found moves awaits
    have kept : (((start store state).seed seed).after before).store = store :=
      after_store _ before
    rw [← kept] at found
    exact offers (awaits.position_after (position_enter_of_choice found))

end Session

/-- An option that is refused until the player's score has changed. -/
theorem Session.choosing_agrees_lift :
    let entered := (((start Sample.store .empty).seed 5).enter "route").2
    let moves := [.choose 1, .setState (Variables.empty.withResponsibility 2)]
    entered.Awaits moves ∧
    (entered.choose 1).1 = .error (.invalidSelection "route" 1) ∧
    ((entered.after moves).choose 1).1 = .ok ⟨"dock", none, .none⟩ := by
  intro entered moves
  have found : Sample.store.node? "route" = some (.choice Sample.route) := rfl
  have refused : (entered.choose 1).1 = .error (.invalidSelection "route" 1) := rfl
  have awaits : entered.Awaits moves := by
    constructor
    · simp [moves]
    · intro seen member outcome taken
      rcases List.mem_cons.1 member with rfl | later
      · exact absurd (refused.symm.trans (Answer.outcome.inj taken)) (by simp)
      · cases List.mem_singleton.1 later
        contradiction
  have offers := choosing_agrees.2.2.2 Sample.store .empty 5 [] "route" Sample.route found
    moves awaits
  refine ⟨awaits, refused, (offers.taken_iff 1 _).2 ⟨Sample.route.lines[1], rfl, ?_, ?_⟩⟩
  · decide +kernel
  · exact Outcome.isOf_iff.2 rfl

end BranchingStory
