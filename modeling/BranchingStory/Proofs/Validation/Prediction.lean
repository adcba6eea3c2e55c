import BranchingStory.Proofs.Choice.Resolver
import BranchingStory.Proofs.Event.Application
import BranchingStory.Proofs.Session.Run
import BranchingStory.Proofs.Store.Building
import BranchingStory.Proofs.Validation.Report

/-!
# What the check predicts

The check looks at a story without playing it, and play runs into exactly what it reports.
A node with a report that blocks it is refused in every state of the player and any other
node in none; a name that dangles is one that play is led to in vain; a choice is
unreachable when some player is offered nothing.
-/

namespace BranchingStory

open Validation

variable {σ : Type} {store : Store σ} {id : String}

/-! ## Entering -/

/-- What keeps a node from being entered. -/
def Node.Blocked : Node σ → Prop
  | .dialogue found => found.entryIndex? = none
  | .choice _ => False
  | .event found => ¬found.Playable

/-- Entering an id is refused. -/
def Session.Refuses [PlayerState σ] (session : Session σ) (id : String) : Prop :=
  ∃ error, (session.enter id).1 = .error error

/-- Whether a node can be entered is up to the node alone. -/
theorem Session.refuses_iff [PlayerState σ] (session : Session σ) {node : Node σ}
    (found : session.store.node? id = some node) : session.Refuses id ↔ node.Blocked := by
  unfold Refuses
  cases node with
  | dialogue dialogue =>
      simp only [Node.Blocked]
      cases entry : dialogue.entryIndex? with
      | none => simp [enter_of_no_entry found entry]
      | some index => simp [enter_of_entry found entry (Dialogue.entryIndex?_lt entry)]
  | choice choice => simp [enter_of_choice found, Node.Blocked]
  | event event =>
      rw [enter_of_event found, Node.Blocked,
        ← event.apply_refused_iff session.shuffle session.state]
      cases (event.apply session.shuffle session.state).1 <;> simp [Except.map]

namespace Store

theorem Keyed.blocked_of_reported (keyed : store.Keyed) (unshared : store.Unshared)
    {issue : Issue} (member : issue ∈ store.validate) (blocks : issue.Blocks)
    {node : Node σ} (found : store.node? issue.id = some node) : node.Blocked := by
  rcases keyed.mem_validate_cases member with ⟨dialogue, lookup, _, reported⟩ |
    ⟨choice, lookup, kind, reported⟩ | ⟨event, lookup, _, reported⟩ | ⟨kinds, shared⟩
  · simp only [node?, lookup, Option.map_some, Option.some_or, Option.some.injEq] at found
    subst found
    exact reported.no_entry blocks
  · exact absurd blocks (reported.not_blocks kind)
  · rcases node?_cases found with ⟨dialogue, other, rfl⟩ | ⟨choice, other, rfl⟩ |
      ⟨same, other, rfl⟩
    · have absent := unshared.no_event (.inl (by
        rw [Std.ExtTreeMap.contains_eq_isSome_getElem?, other, Option.isSome_some]))
      rw [absent] at lookup
      contradiction
    · have absent := unshared.no_event (.inr (by
        rw [Std.ExtTreeMap.contains_eq_isSome_getElem?, other, Option.isSome_some]))
      rw [absent] at lookup
      contradiction
    · rw [lookup] at other
      cases other
      exact reported.not_playable
  · exact absurd shared (unshared issue member kinds)

/-- The check reports something that blocks an id exactly when its node is blocked. -/
theorem Keyed.reported_iff_blocked (keyed : store.Keyed) (unshared : store.Unshared)
    {node : Node σ} (found : store.node? id = some node) :
    (∃ issue ∈ store.validate, issue.id = id ∧ issue.Blocks) ↔ node.Blocked := by
  constructor
  · rintro ⟨issue, member, rfl, blocks⟩
    exact keyed.blocked_of_reported unshared member blocks found
  · intro blocked
    rcases node?_cases found with ⟨dialogue, lookup, rfl⟩ | ⟨choice, lookup, rfl⟩ |
      ⟨event, lookup, rfl⟩
    · obtain ⟨issue, member, blocks⟩ := Dialogue.blocked_of_no_entry store.contains blocked
      obtain ⟨line, problem, rfl, _⟩ := Dialogue.reported_of_mem member
      exact ⟨_, mem_validate_of_dialogue lookup member, keyed.dialogues _ _ lookup, blocks⟩
    · exact blocked.elim
    · obtain ⟨issue, member, blocks⟩ := Event.blocked_of_not_playable blocked
      obtain ⟨line, problem, rfl, _⟩ := Event.reported_of_mem member
      exact ⟨_, mem_validate_of_event lookup member, keyed.events _ _ lookup, blocks⟩

/-! ## Going on -/

theorem lookup_of_dialogue {dialogue : Dialogue} (found : store.dialogue id = .ok dialogue) :
    store.dialogues[id]? = some dialogue := by
  unfold Store.dialogue at found
  split at found
  · cases found
    assumption
  · contradiction

theorem lookup_of_choice {choice : Choice} (found : store.choice id = .ok choice) :
    store.choices[id]? = some choice := by
  unfold Store.choice at found
  split at found
  · cases found
    assumption
  · contradiction

theorem resolve_refused_iff {target : String} :
    store.resolve target = .error (.notFound .node target) ↔ store.contains target = false := by
  cases found : store.node? target with
  | none =>
      have absent : store.contains target = false := by
        rw [Bool.eq_false_iff, ne_eq, contains_iff]
        rintro ⟨node, other⟩
        rw [found] at other
        contradiction
      simp only [resolve_of_missing found, absent]
  | some node =>
      have present : store.contains target = true := contains_iff.2 ⟨node, found⟩
      simp [resolve_of_found found, present]

end Store

theorem Cursor.advance_external_iff {dialogue : Dialogue} {index : Nat}
    (inside : index < dialogue.lines.length) {target : String} :
    (∃ after, (⟨dialogue, .atLine index⟩ : Cursor).advance = .ok (.external target, after)) ↔
      dialogue.classify dialogue.lines[index].next = .external target := by
  cases classified : dialogue.classify dialogue.lines[index].next with
  | terminal => simp [advance_of_terminal inside classified]
  | external other => simp [advance_of_external inside classified]
  | line next =>
      simp [advance_of_line inside classified (Dialogue.classify_line_lt classified)]

namespace Store

/-- A dangling name of a dialogue is reported where play is led out of the dialogue to an id
that means nothing. -/
theorem Keyed.danglingNext_dialogue_iff (keyed : store.Keyed) {dialogue : Dialogue}
    (lookup : store.dialogues[id]? = some dialogue) {index : Nat}
    (inside : index < dialogue.lines.length) {target : String} :
    (⟨.dialogue, id, some index, .danglingNext target⟩ : Issue) ∈ store.validate ↔
      (∃ after,
        (⟨dialogue, .atLine index⟩ : Cursor).advance = .ok (.external target, after)) ∧
      store.resolve target = .error (.notFound .node target) := by
  rw [Cursor.advance_external_iff inside, resolve_refused_iff]
  constructor
  · intro member
    rcases keyed.mem_validate_cases member with ⟨other, found, _, reported⟩ | ⟨_, _, kind, _⟩ |
      ⟨_, _, kind, _⟩ | ⟨_, shared⟩
    · rw [lookup] at found
      cases found
      cases reported with
      | danglingNext _ classified unknown => exact ⟨classified, unknown⟩
    all_goals contradiction
  · rintro ⟨classified, unknown⟩
    have same : dialogue.id = id := keyed.dialogues id dialogue lookup
    rw [← same]
    exact mem_validate_of_dialogue lookup (Dialogue.danglingNext_mem inside classified unknown)

/-- A dangling name of a choice is reported where taking the option leads to an id that
means nothing and is not the end. -/
theorem Keyed.danglingNext_choice_iff (keyed : store.Keyed) {choice : Choice}
    (lookup : store.choices[id]? = some choice) {index : Nat}
    (inside : index < choice.lines.length) {target : String} :
    (⟨.choice, id, some index, .danglingNext target⟩ : Issue) ∈ store.validate ↔
      choice.lines[index].outcome.next = target ∧ isTerminal target = false ∧
      store.resolve target = .error (.notFound .node target) := by
  rw [resolve_refused_iff]
  constructor
  · intro member
    rcases keyed.mem_validate_cases member with ⟨_, _, kind, _⟩ | ⟨other, found, _, reported⟩ |
      ⟨_, _, kind, _⟩ | ⟨_, shared⟩
    · contradiction
    · rw [lookup] at found
      cases found
      cases reported with
      | danglingNext _ away unknown => exact ⟨rfl, away, unknown⟩
    all_goals contradiction
  · rintro ⟨rfl, away, unknown⟩
    have same : choice.id = id := keyed.choices id choice lookup
    rw [← same]
    refine mem_validate_of_choice lookup (Choice.danglingNext_mem inside ?_)
    rw [Bool.or_eq_false_iff]
    exact ⟨away, unknown⟩

end Store

/-! ## Choosing -/

namespace Choice

variable {choice : Choice}

theorem gateScore_greatest :
    gateScore (Variables.empty.withResponsibility Int64.maxValue) = Int64.maxValue := by
  have stored : (Variables.empty.withResponsibility Int64.maxValue).get? responsibilityKey =
      some (.int Int64.maxValue) := by
    simp [Variables.withResponsibility]
  show max (scoreOf _) leastResponsibility = Int64.maxValue
  rw [stored]
  decide

/-- What an option leads to is where some player gets who takes it. -/
theorem outcome_next_iff {index : Nat} (inside : index < choice.lines.length)
    {target : String} :
    (∃ (state : Variables) (outcome : Outcome),
      choice.resolve index state = .ok outcome ∧ outcome.next = target) ↔
      choice.lines[index].outcome.next = target := by
  have lookup : choice.lines[index]? = some choice.lines[index] :=
    List.getElem?_eq_getElem inside
  constructor
  · rintro ⟨state, outcome, resolved, rfl⟩
    simp only [resolve, lookup, Option.filter_some] at resolved
    split at resolved
    · next taken =>
        split at taken
        · cases taken
          cases resolved
          rfl
        · cases taken
    · cases resolved
  · rintro rfl
    -- The greatest score opens every option.
    refine ⟨Variables.empty.withResponsibility Int64.maxValue, _, ?_, rfl⟩
    refine resolve_of_listed (mem_openLines.2 ⟨lookup, ?_⟩)
    rw [gateScore_greatest, ChoiceLine.isOpenTo, decide_eq_true_eq]
    exact Int64.le_maxValue _

/-- Some player is offered nothing exactly when no option is open to the least score. -/
theorem exists_openLines_eq_nil_iff (choice : Choice) :
    (∃ (τ : Type) (_ : PlayerState τ) (state : τ), choice.openLines state = []) ↔
      choice.lines.any (·.isOpenTo leastResponsibility) = false := by
  constructor
  · rintro ⟨τ, _, state, nothing⟩
    rw [Bool.eq_false_iff, ne_eq, List.any_eq_true]
    rintro ⟨line, member, isOpen⟩
    exact openLines_ne_nil member isOpen state nothing
  · intro closed
    refine ⟨Variables, inferInstance, .empty, List.eq_nil_iff_forall_not_mem.2 ?_⟩
    rintro ⟨index, line⟩ listed
    obtain ⟨lookup, isOpen⟩ := mem_openLines.1 listed
    have least : gateScore Variables.empty = leastResponsibility := by rfl
    rw [least] at isOpen
    have opened : choice.lines.any (·.isOpenTo leastResponsibility) = true :=
      List.any_eq_true.2 ⟨line, List.mem_of_getElem? lookup, isOpen⟩
    rw [closed] at opened
    contradiction

end Choice

/-- A choice with options is reported as unreachable exactly when some player is offered
nothing. -/
theorem Store.Keyed.unreachableChoice_iff (keyed : store.Keyed) {choice : Choice}
    (lookup : store.choices[id]? = some choice) (nonempty : choice.lines ≠ []) :
    (⟨.choice, id, none, .unreachableChoice⟩ : Issue) ∈ store.validate ↔
      ∃ (τ : Type) (_ : PlayerState τ) (state : τ), choice.openLines state = [] := by
  rw [Choice.exists_openLines_eq_nil_iff]
  constructor
  · intro member
    rcases keyed.mem_validate_cases member with ⟨_, _, kind, _⟩ | ⟨other, found, _, reported⟩ |
      ⟨_, _, kind, _⟩ | ⟨_, shared⟩
    · contradiction
    · rw [lookup] at found
      cases found
      cases reported with
      | unreachableChoice closed => exact closed
    all_goals contradiction
  · intro closed
    have same : choice.id = id := keyed.choices id choice lookup
    rw [← same]
    exact mem_validate_of_choice lookup (Choice.unreachableChoice_mem nonempty closed)

/-- The check of a leniently built story without shared ids predicts what play runs into.
Entering an id of the story is refused in some state of the player just when it is refused
in all, and that is when the check has a report that blocks it.  A name dangles in the
reports of a dialogue just when going on from its line leads out to an id that means
nothing, and in those of a choice just when a player who takes the option gets to such an
id and not to the end.  A choice with options is unreachable in the reports just when some
player is offered nothing. -/
theorem Store.validate_predicts_play [PlayerState σ] [Nonempty σ] {sources : Sources}
    {bindings : HostBindings σ} {files after : Files.FileTree}
    (built : (sources.build bindings false :
      ExceptT StoryError (StateM Files.FileTree) (Store σ)).run.run files = (.ok store, after))
    (unshared : ∀ issue ∈ store.validate, ∀ kinds, issue.problem ≠ .duplicateId kinds) :
    (∀ id, store.contains id = true →
      ((∃ session : Session σ, session.store = store ∧ session.Refuses id) ↔
        ∃ issue ∈ store.validate, issue.id = id ∧ issue.Blocks) ∧
      ((∀ session : Session σ, session.store = store → session.Refuses id) ↔
        ∃ issue ∈ store.validate, issue.id = id ∧ issue.Blocks)) ∧
    (∀ id dialogue, store.dialogue id = .ok dialogue →
      ∀ index, index < dialogue.lines.length → ∀ target,
        (⟨.dialogue, id, some index, .danglingNext target⟩ : Issue) ∈ store.validate ↔
          (∃ after,
            (⟨dialogue, .atLine index⟩ : Cursor).advance = .ok (.external target, after)) ∧
          store.resolve target = .error (.notFound .node target)) ∧
    (∀ id choice, store.choice id = .ok choice →
      ∀ index, index < choice.lines.length → ∀ target,
        (⟨.choice, id, some index, .danglingNext target⟩ : Issue) ∈ store.validate ↔
          (∃ (state : Variables) (outcome : Outcome),
            choice.resolve index state = .ok outcome ∧ outcome.next = target) ∧
          isTerminal target = false ∧
          store.resolve target = .error (.notFound .node target)) ∧
    (∀ id choice, store.choice id = .ok choice → choice.lines ≠ [] →
      ((⟨.choice, id, none, .unreachableChoice⟩ : Issue) ∈ store.validate ↔
        ∃ (τ : Type) (_ : PlayerState τ) (state : τ), choice.openLines state = [])) := by
  obtain ⟨package, accepted⟩ := Sources.build_ok built
  have keyed : store.Keyed := (ofPackage_ok accepted).1.keyed
  refine ⟨?_, ?_, ?_, ?_⟩
  · intro id contained
    obtain ⟨node, found⟩ := contains_iff.1 contained
    rw [keyed.reported_iff_blocked unshared found]
    have refused : ∀ session : Session σ, session.store = store →
        (session.Refuses id ↔ node.Blocked) := by
      rintro session rfl
      exact session.refuses_iff found
    constructor
    · constructor
      · rintro ⟨session, same, refuses⟩
        exact (refused session same).1 refuses
      · intro blocked
        obtain ⟨state⟩ := ‹Nonempty σ›
        exact ⟨.start store state, rfl, (refused _ rfl).2 blocked⟩
    · constructor
      · intro refuses
        obtain ⟨state⟩ := ‹Nonempty σ›
        exact (refused _ rfl).1 (refuses (.start store state) rfl)
      · intro blocked session same
        exact (refused session same).2 blocked
  · intro id dialogue found index inside target
    exact keyed.danglingNext_dialogue_iff (lookup_of_dialogue found) inside
  · intro id choice found index inside target
    rw [keyed.danglingNext_choice_iff (lookup_of_choice found) inside,
      Choice.outcome_next_iff inside]
  · intro id choice found nonempty
    exact keyed.unreachableChoice_iff (lookup_of_choice found) nonempty

namespace Sample

/-- A line that leads to an id that means nothing. -/
def stairs : DialogueBody := ⟨none, [⟨none, "", "Down.", "", none, none, none, "cellar"⟩]⟩

/-- A choice that not everybody has an option of. -/
def gate : ChoiceBody := ⟨[⟨"Enter", "stairs", .none, noSkip, 5⟩]⟩

/-- A story with a fault of each kind of node. -/
def flawed : Package where
  dialogues := Table.ofEntries [("stairs", stairs)]
  choices := Table.ofEntries [("gate", gate)]
  events := Table.ofEntries [("gong", ⟨.unrecognized "XOR", .sequential, [], []⟩)]

def flawedStore : Store Variables := (Store.empty.load flawed .none).2

end Sample

/-- The lenient build accepts a story with faults, and the reports on it come true: the
event cannot be fired, the dialogue leads to nothing, and somebody has nothing to choose. -/
theorem Store.validate_predicts_play_flawed :
    (Sources.build ⟨[], [], [Sample.flawed]⟩ .none false :
      ExceptT StoryError (StateM Files.FileTree) (Store Variables)).run.run .empty =
        (.ok Sample.flawedStore, .empty) ∧
    (∀ issue ∈ Sample.flawedStore.validate, ∀ kinds, issue.problem ≠ .duplicateId kinds) ∧
    (∀ session : Session Variables, session.store = Sample.flawedStore →
      session.Refuses "gong") ∧
    (∃ after, (⟨⟨"stairs", none, Sample.stairs.lines⟩, .atLine 0⟩ : Cursor).advance =
      .ok (.external "cellar", after)) ∧
    ∃ (τ : Type) (_ : PlayerState τ) (state : τ),
      (⟨"gate", Sample.gate.lines⟩ : Choice).openLines state = [] := by
  have built : (Sources.build ⟨[], [], [Sample.flawed]⟩ .none false :
      ExceptT StoryError (StateM Files.FileTree) (Store Variables)).run.run .empty =
        (.ok Sample.flawedStore, .empty) := by rfl
  have reports : Sample.flawedStore.validate =
      [⟨.dialogue, "stairs", some 0, .danglingNext "cellar"⟩,
        ⟨.choice, "gate", none, .unreachableChoice⟩,
        ⟨.event, "gong", none, .unrecognizedLogic "XOR"⟩] := by
    decide +kernel
  have unshared : ∀ issue ∈ Sample.flawedStore.validate, ∀ kinds,
      issue.problem ≠ .duplicateId kinds := by
    simp [reports]
  have inhabited : Nonempty Variables := ⟨.empty⟩
  obtain ⟨entering, dangling, _, unreachable⟩ := validate_predicts_play built unshared
  refine ⟨built, unshared, ?_, ?_, ?_⟩
  · refine (entering "gong" (by decide +kernel)).2.2 ?_
    rw [reports]
    exact ⟨⟨.event, "gong", none, .unrecognizedLogic "XOR"⟩, by simp, rfl, trivial⟩
  · refine ((dangling "stairs" _ rfl 0 (by decide) "cellar").1 ?_).1
    simp [reports]
  · refine (unreachable "gate" _ rfl (by decide)).1 ?_
    simp [reports]

end BranchingStory
