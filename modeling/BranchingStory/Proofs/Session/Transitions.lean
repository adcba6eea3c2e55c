import BranchingStory.Proofs.Choice.Resolver
import BranchingStory.Proofs.Session.Draws
import BranchingStory.Proofs.Session.Restore

/-!
# The states of a session and what leads from one to another

For each call of a session one relation says all that the call can do: how it answers and
which session it leaves.  A dialogue at hand is always at one of its lines, since every
way into a dialogue leads to a line of it, so two of the errors that a cursor has never come
up in a session.  What a host can rely on between any two calls is read off the relations.
-/

namespace BranchingStory

/-- A dialogue at hand is at one of its lines: not past its end and not beyond its lines. -/
inductive Position.InRange : Position → Prop where
  | idle : InRange .idle
  | dialogue {dialogue : Dialogue} {index : Nat} (inside : index < dialogue.lines.length) :
      InRange (.dialogue ⟨dialogue, .atLine index⟩)
  | choice (choice : Choice) : InRange (.choice choice)

namespace Session

variable {σ : Type} {session : Session σ}

/-! ## Going on in a dialogue -/

/-- What going on can give, with the session afterwards. -/
inductive Advances (session : Session σ) : Except StoryError Step × Session σ → Prop where
  | outside (elsewhere : ∀ cursor, session.position ≠ .dialogue cursor) :
      Advances session (.error (.invalidState .advanceOutsideDialogue), session)
  | completed {cursor : Cursor} (atHand : session.position = .dialogue cursor) :
      Advances session (.ok .completed, session.atIdle)
  | transition {cursor : Cursor} (atHand : session.position = .dialogue cursor)
      (target : String) : Advances session (.ok (.transition target), session.atIdle)
  | line {dialogue : Dialogue} {index next : Nat}
      (atHand : session.position = .dialogue ⟨dialogue, .atLine index⟩)
      (reached : next < dialogue.lines.length) :
      Advances session (.ok (.line dialogue.id next dialogue.lines[next]),
        { session with position := .dialogue ⟨dialogue, .atLine next⟩ })

theorem advances (inRange : session.position.InRange) : session.Advances session.advance := by
  generalize atHand : session.position = position at inRange
  cases inRange with
  | idle =>
      have refused : session.advance =
          (.error (.invalidState .advanceOutsideDialogue), session) := by
        simp only [advance, atHand]
      rw [refused]
      exact .outside (by simp [atHand])
  | choice choice =>
      have refused : session.advance =
          (.error (.invalidState .advanceOutsideDialogue), session) := by
        simp only [advance, atHand]
      rw [refused]
      exact .outside (by simp [atHand])
  | @dialogue dialogue index inside =>
      cases classified : dialogue.classify dialogue.lines[index].next with
      | terminal =>
          rw [advance_of_terminal atHand inside classified]
          exact .completed atHand
      | external target =>
          rw [advance_of_external atHand inside classified]
          exact .transition atHand target
      | line next =>
          have reached : next < dialogue.lines.length := Dialogue.classify_line_lt classified
          rw [advance_of_line atHand inside classified reached]
          exact .line atHand reached

theorem Advances.inRange {result : Except StoryError Step × Session σ}
    (moved : session.Advances result) (inRange : session.position.InRange) :
    result.2.position.InRange := by
  cases moved with
  | outside elsewhere => exact inRange
  | completed atHand => exact .idle
  | transition atHand target => exact .idle
  | line atHand reached => exact .dialogue reached

theorem Advances.fails_iff {result : Except StoryError Step × Session σ}
    (moved : session.Advances result) :
    (∃ error, result.1 = .error error) ↔ ∀ cursor, session.position ≠ .dialogue cursor := by
  cases moved with
  | outside elsewhere => exact ⟨fun _ => elsewhere, fun _ => ⟨_, rfl⟩⟩
  | completed atHand | transition atHand target | line atHand reached => simp [atHand]

theorem Advances.frame {result : Except StoryError Step × Session σ}
    (moved : session.Advances result) :
    result.2.state = session.state ∧ result.2.shuffle = session.shuffle := by
  cases moved <;> exact ⟨rfl, rfl⟩

theorem Advances.refused {result : Except StoryError Step × Session σ}
    (moved : session.Advances result) {error : StoryError} (failed : result.1 = .error error) :
    error = .invalidState .advanceOutsideDialogue ∧ result.2 = session := by
  cases moved with
  | outside elsewhere =>
      cases failed
      exact ⟨rfl, rfl⟩
  | completed atHand | transition atHand target | line atHand reached => contradiction

theorem Advances.leaves_iff {result : Except StoryError Step × Session σ}
    (moved : session.Advances result) {step : Step} (answered : result.1 = .ok step) :
    result.2.position = .idle ↔ step = .completed ∨ ∃ target, step = .transition target := by
  cases moved with
  | outside elsewhere => contradiction
  | completed atHand =>
      cases answered
      exact ⟨fun _ => .inl rfl, fun _ => rfl⟩
  | transition atHand target =>
      cases answered
      exact ⟨fun _ => .inr ⟨target, rfl⟩, fun _ => rfl⟩
  | line atHand reached =>
      cases answered
      simp

variable [PlayerState σ]

/-! ## Taking an option -/

/-- What taking the option at an index can give, with the session afterwards. -/
inductive Chooses (session : Session σ) (index : Nat) :
    Except StoryError Outcome × Session σ → Prop where
  | outside (elsewhere : ∀ choice, session.position ≠ .choice choice) :
      Chooses session index (.error (.invalidState .chooseOutsideChoice), session)
  | refused {choice : Choice} (atHand : session.position = .choice choice)
      (closed : ∀ line, (⟨index, line⟩ : OpenLine) ∉ choice.openLines session.state) :
      Chooses session index (.error (.invalidSelection choice.id index), session)
  | taken {choice : Choice} {line : ChoiceLine} (atHand : session.position = .choice choice)
      (listed : (⟨index, line⟩ : OpenLine) ∈ choice.openLines session.state) :
      Chooses session index (.ok line.outcome, session.atIdle)

theorem chooses (session : Session σ) (index : Nat) :
    session.Chooses index (session.choose index) := by
  cases atHand : session.position with
  | idle =>
      have refused : session.choose index =
          (.error (.invalidState .chooseOutsideChoice), session) := by
        simp only [choose, atHand]
      rw [refused]
      exact .outside (by simp [atHand])
  | dialogue cursor =>
      have refused : session.choose index =
          (.error (.invalidState .chooseOutsideChoice), session) := by
        simp only [choose, atHand]
      rw [refused]
      exact .outside (by simp [atHand])
  | choice choice =>
      by_cases listed : ∃ line, (⟨index, line⟩ : OpenLine) ∈ choice.openLines session.state
      · obtain ⟨line, listed⟩ := listed
        rw [choose_of_open atHand (Choice.resolve_of_listed listed)]
        exact .taken atHand listed
      · have closed : ∀ line, (⟨index, line⟩ : OpenLine) ∉ choice.openLines session.state :=
          not_exists.1 listed
        rw [choose_of_refused atHand (Choice.resolve_of_not_listed closed)]
        exact .refused atHand closed

theorem Chooses.inRange {index : Nat} {result : Except StoryError Outcome × Session σ}
    (moved : session.Chooses index result) (inRange : session.position.InRange) :
    result.2.position.InRange := by
  cases moved with
  | outside elsewhere => exact inRange
  | refused atHand closed => exact inRange
  | taken atHand listed => exact .idle

theorem Chooses.fails_iff {index : Nat} {result : Except StoryError Outcome × Session σ}
    (moved : session.Chooses index result) :
    (∃ error, result.1 = .error error) ↔ ∀ choice, session.position = .choice choice →
      ∀ line, (⟨index, line⟩ : OpenLine) ∉ choice.openLines session.state := by
  cases moved with
  | outside elsewhere =>
      exact ⟨fun _ choice atHand => absurd atHand (elsewhere choice), fun _ => ⟨_, rfl⟩⟩
  | refused atHand closed =>
      refine ⟨fun _ choice other => ?_, fun _ => ⟨_, rfl⟩⟩
      cases atHand.symm.trans other
      exact closed
  | taken atHand listed =>
      refine ⟨fun ⟨_, failed⟩ => by contradiction, fun closed => ?_⟩
      exact absurd listed (closed _ atHand _)

theorem Chooses.frame {index : Nat} {result : Except StoryError Outcome × Session σ}
    (moved : session.Chooses index result) :
    result.2.state = session.state ∧ result.2.shuffle = session.shuffle := by
  cases moved <;> exact ⟨rfl, rfl⟩

theorem Chooses.refused_session {index : Nat} {result : Except StoryError Outcome × Session σ}
    (moved : session.Chooses index result) {error : StoryError}
    (failed : result.1 = .error error) : result.2 = session := by
  cases moved with
  | outside elsewhere | refused atHand closed => rfl
  | taken atHand listed => contradiction

theorem Chooses.leaves {index : Nat} {result : Except StoryError Outcome × Session σ}
    (moved : session.Chooses index result) {outcome : Outcome}
    (answered : result.1 = .ok outcome) : result.2.position = .idle := by
  cases moved with
  | outside elsewhere | refused atHand closed => contradiction
  | taken atHand listed => rfl

/-! ## Entering a node -/

/-- What entering an id can give, with the session afterwards. -/
inductive Enters (session : Session σ) (id : String) :
    Except StoryError Step × Session σ → Prop where
  | refused (error : StoryError) : Enters session id (.error error, session.atIdle)
  | line {dialogue : Dialogue} {index : Nat}
      (found : session.store.node? id = some (.dialogue dialogue))
      (inside : index < dialogue.lines.length) :
      Enters session id (.ok (.line dialogue.id index dialogue.lines[index]),
        { session with position := .dialogue ⟨dialogue, .atLine index⟩ })
  | choice {choice : Choice} (found : session.store.node? id = some (.choice choice)) :
      Enters session id (.ok (.choice choice (choice.openLines session.state)),
        { session with position := .choice choice })
  | event {event : Event σ} (found : session.store.node? id = some (.event event))
      (report : EventReport) (shuffle : ShuffleState) (state : σ) :
      Enters session id (.ok (.event event.id report),
        { session.atIdle with shuffle, state })

theorem enters (session : Session σ) (id : String) :
    session.Enters id (session.enter id) := by
  cases found : session.store.node? id with
  | none =>
      rw [enter_of_missing found]
      exact .refused _
  | some node =>
      cases node with
      | dialogue dialogue =>
          cases entry : dialogue.entryIndex? with
          | none =>
              rw [enter_of_no_entry found entry]
              exact .refused _
          | some index =>
              have inside : index < dialogue.lines.length := Dialogue.entryIndex?_lt entry
              rw [enter_of_entry found entry inside]
              exact .line found inside
      | choice choice =>
          rw [enter_of_choice found]
          exact .choice found
      | event event =>
          rw [enter_of_event found]
          cases answered : (event.apply session.shuffle session.state).1 with
          | ok report => exact .event found report _ _
          | error error =>
              have unknown : ¬event.Playable :=
                (event.apply_refused_iff session.shuffle session.state).1 ⟨error, answered⟩
              rw [Event.apply_of_not_playable unknown]
              exact .refused error

theorem Enters.inRange {id : String} {result : Except StoryError Step × Session σ}
    (moved : session.Enters id result) : result.2.position.InRange := by
  cases moved with
  | refused error => exact .idle
  | line found inside => exact .dialogue inside
  | choice found => exact .choice _
  | event found report shuffle state => exact .idle

theorem Enters.event_idle {id : String} {result : Except StoryError Step × Session σ}
    (moved : session.Enters id result) {event : Event σ}
    (found : session.store.node? id = some (.event event)) : result.2.position = .idle := by
  cases moved with
  | refused error | event other report shuffle state => rfl
  | line other inside => cases found.symm.trans other
  | choice other => cases found.symm.trans other

theorem Enters.refused_session {id : String} {result : Except StoryError Step × Session σ}
    (moved : session.Enters id result) {error : StoryError} (failed : result.1 = .error error) :
    result.2 = session.atIdle := by
  cases moved with
  | refused error => rfl
  | line found inside | choice found | event found report shuffle state => contradiction

/-! ## Whole runs -/

theorem TakesUp.inRange {id : String} {line : Option Nat}
    {result : Except StoryError Step × Session σ} (moved : session.TakesUp id line result)
    (inRange : session.position.InRange) : result.2.position.InRange := by
  cases moved with
  | refused unfit => exact inRange
  | line found inside => exact .dialogue inside
  | choice found => exact .choice _

theorem inRange_restore (inRange : session.position.InRange) (snapshot : Snapshot) :
    (session.restore snapshot).2.position.InRange := by
  cases named : snapshot.node with
  | none =>
      rw [restore_of_idle session named]
      exact .idle
  | some id =>
      rw [restore_of_node session named]
      have reshuffled : ({ session with
          shuffle := snapshot.shuffle.getD session.shuffle } : Session σ).position.InRange :=
        inRange
      exact (takesUp _ id snapshot.line).inRange reshuffled

theorem inRange_perform (inRange : session.position.InRange) (move : Move σ) :
    (session.perform move).2.position.InRange := by
  cases move with
  | enter id => exact (session.enters id).inRange
  | advance => exact (advances inRange).inRange inRange
  | choose index => exact (session.chooses index).inRange inRange
  | restore snapshot => exact inRange_restore inRange snapshot
  | snapshot | setState state => exact inRange

theorem inRange_after (inRange : session.position.InRange) (moves : List (Move σ)) :
    (session.after moves).position.InRange := by
  induction moves generalizing session with
  | nil => exact inRange
  | cons move moves ih => exact ih (inRange_perform inRange move)

/-- What a host can rely on between two calls. -/
structure Orderly (session : Session σ) : Prop where
  /-- A dialogue at hand is at one of its lines and not past its end. -/
  at_line : ∀ cursor, session.position = .dialogue cursor →
    ∃ index, cursor.state = .atLine index ∧ index < cursor.dialogue.lines.length
  advance_fails_iff : (∃ error, session.advance.1 = .error error) ↔
    ∀ cursor, session.position ≠ .dialogue cursor
  /-- The option is closed to the player as the player is now, or there is no such option. -/
  choose_fails_iff : ∀ index, (∃ error, (session.choose index).1 = .error error) ↔
    ∀ choice, session.position = .choice choice →
      ∀ line, (⟨index, line⟩ : OpenLine) ∉ choice.openLines session.state
  advance_frame : session.advance.2.state = session.state ∧
    session.advance.2.shuffle = session.shuffle
  choose_frame : ∀ index, (session.choose index).2.state = session.state ∧
    (session.choose index).2.shuffle = session.shuffle
  /-- Going on has one error only: a cursor is never found completed or beyond its lines. -/
  advance_refused : ∀ error, session.advance.1 = .error error →
    error = .invalidState .advanceOutsideDialogue ∧ session.advance.2 = session
  choose_refused : ∀ index error, (session.choose index).1 = .error error →
    (session.choose index).2 = session
  /-- A dialogue is left at its end and towards another node, and only then. -/
  advance_leaves_iff : ∀ step, session.advance.1 = .ok step →
    (session.advance.2.position = .idle ↔
      step = .completed ∨ ∃ target, step = .transition target)
  choose_leaves : ∀ index outcome, (session.choose index).1 = .ok outcome →
    (session.choose index).2.position = .idle
  enter_event : ∀ id event, session.store.node? id = some (.event event) →
    (session.enter id).2.position = .idle
  /-- Nothing but the position is lost. -/
  enter_refused : ∀ id error, (session.enter id).1 = .error error →
    (session.enter id).2 = session.atIdle

/-- Between any two calls of a run, whatever has been called, refused or restored and
however the player's state has changed, a session is orderly. -/
theorem orderly_after (store : Store σ) (state : σ) (seed : UInt64) (moves : List (Move σ)) :
    (((start store state).seed seed).after moves).Orderly := by
  have inRange : (((start store state).seed seed).after moves).position.InRange :=
    inRange_after .idle moves
  generalize ((start store state).seed seed).after moves = session at inRange
  have moved := advances inRange
  constructor
  case at_line =>
    intro cursor atHand
    rw [atHand] at inRange
    cases inRange with
    | dialogue inside => exact ⟨_, rfl, inside⟩
  case advance_fails_iff => exact moved.fails_iff
  case choose_fails_iff => exact fun index => (session.chooses index).fails_iff
  case advance_frame => exact moved.frame
  case choose_frame => exact fun index => (session.chooses index).frame
  case advance_refused => exact fun error failed => moved.refused failed
  case choose_refused =>
    exact fun index error failed => (session.chooses index).refused_session failed
  case advance_leaves_iff => exact fun step answered => moved.leaves_iff answered
  case choose_leaves =>
    exact fun index outcome answered => (session.chooses index).leaves answered
  case enter_event => exact fun id event found => (session.enters id).event_idle found
  case enter_refused => exact fun id error failed => (session.enters id).refused_session failed

end Session

end BranchingStory
