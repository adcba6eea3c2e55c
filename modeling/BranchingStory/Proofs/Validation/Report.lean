import BranchingStory.Table
import BranchingStory.Proofs.Validation.Playable

/-!
# What the check reports

For each kind of node the relation `Reported` says what its check can report, of which line
and under which condition.  In a store whose nodes stand under their own ids a report is
about the node under its id, and where no id is shared an id has the reports of one node
only.  A report `Blocks` when its node cannot be entered.
-/

namespace BranchingStory

open Validation

theorem Table.mem_values_iff {α : Type} {table : Table α} {value : α} :
    value ∈ table.values ↔ ∃ name : String, table[name]? = some value := by
  constructor
  · rw [values_eq_map_toList, List.mem_map]
    rintro ⟨⟨name, stored⟩, entry, rfl⟩
    exact ⟨name, Std.ExtTreeMap.mem_toList_iff_getElem?_eq_some.1 entry⟩
  · rintro ⟨name, lookup⟩
    exact mem_values lookup

/-- A report for which its node cannot be entered. -/
def Validation.Issue.Blocks (issue : Issue) : Prop :=
  match issue.problem with
  | .empty => issue.kind = .dialogue
  | .unknownEntry _ | .unrecognizedLogic _ | .unrecognizedMode _ => True
  | _ => False

/-- Every line that is checked stands in the node at its index. -/
theorem Validation.lt_of_numbered {α : Type} {lines : List α} {line : α} {index : Nat}
    (numbered : (line, index) ∈ lines.zipIdx) :
    ∃ inside : index < lines.length, lines[index] = line :=
  List.getElem?_eq_some_iff.1 (List.mem_zipIdx_iff_getElem?.1 numbered)

variable {known : String → Bool}

/-! ## What each check reports -/

namespace Dialogue

variable {dialogue : Dialogue}

/-- What can be reported of a dialogue, with the line it is about. -/
inductive Reported (known : String → Bool) (dialogue : Dialogue) :
    Option Nat → Problem → Prop where
  | empty (nothing : dialogue.lines = []) : Reported known dialogue none .empty
  | duplicateLineKey (index : Nat) (key : String) :
      Reported known dialogue (some index) (.duplicateLineKey key)
  | danglingNext {index : Nat} {target : String} (inside : index < dialogue.lines.length)
      (classified : dialogue.classify dialogue.lines[index].next = .external target)
      (unknown : known target = false) :
      Reported known dialogue (some index) (.danglingNext target)
  | unknownEntry (missing : dialogue.entryIndex? = none) (name : String) :
      Reported known dialogue none (.unknownEntry name)
  | unreachableLine (index : Nat) :
      Reported known dialogue (some index) (.unreachableLine index)

theorem reported_of_lineIssues {issue : Issue} (member : issue ∈ dialogue.lineIssues known) :
    ∃ line problem, issue = dialogue.issue line problem ∧
      dialogue.Reported known line problem := by
  simp only [lineIssues, List.mem_flatMap, List.mem_append] at member
  obtain ⟨⟨line, index⟩, numbered, member⟩ := member
  obtain ⟨inside, rfl⟩ := lt_of_numbered numbered
  rcases member with duplicate | dangling
  · unfold keyIssues at duplicate
    split at duplicate
    · contradiction
    · split at duplicate
      · rw [List.mem_singleton.1 duplicate]
        exact ⟨_, _, rfl, .duplicateLineKey _ _⟩
      · contradiction
  · unfold nextIssues at dangling
    split at dangling
    · next target classified =>
        split at dangling
        · contradiction
        · next unknown =>
            rw [List.mem_singleton.1 dangling]
            exact ⟨_, _, rfl, .danglingNext inside classified (by simpa using unknown)⟩
    · contradiction

theorem reported_of_entryIssues {issue : Issue} (member : issue ∈ dialogue.entryIssues) :
    ∃ line problem, issue = dialogue.issue line problem ∧
      dialogue.Reported known line problem := by
  unfold entryIssues at member
  split at member
  · next missing =>
      rw [List.mem_singleton.1 member]
      exact ⟨_, _, rfl, .unknownEntry missing _⟩
  · obtain ⟨index, _, rfl⟩ := List.mem_map.1 member
    exact ⟨_, _, rfl, .unreachableLine index⟩

theorem reported_of_mem {issue : Issue} (member : issue ∈ dialogue.issues known) :
    ∃ line problem, issue = dialogue.issue line problem ∧
      dialogue.Reported known line problem := by
  unfold issues at member
  split at member
  · next nothing =>
      rw [List.mem_singleton.1 member]
      exact ⟨_, _, rfl, .empty (by simpa using nothing)⟩
  · rcases List.mem_append.1 member with member | member
    · exact reported_of_lineIssues member
    · exact reported_of_entryIssues member

theorem entryIndex?_of_nil (nothing : dialogue.lines = []) : dialogue.entryIndex? = none := by
  cases entry : dialogue.entryIndex? with
  | none => rfl
  | some index =>
      have inside := entryIndex?_lt entry
      simp [nothing] at inside

/-- Only a dialogue that cannot be begun is blocked. -/
theorem Reported.no_entry {issue : Issue}
    (reported : dialogue.Reported known issue.line issue.problem) (blocks : issue.Blocks) :
    dialogue.entryIndex? = none := by
  obtain ⟨kind, id, line, problem⟩ := issue
  cases reported with
  | empty nothing => exact entryIndex?_of_nil nothing
  | unknownEntry missing name => exact missing
  | duplicateLineKey | danglingNext | unreachableLine => exact blocks.elim

/-- A dialogue that cannot be begun has a report that blocks it. -/
theorem blocked_of_no_entry (known : String → Bool) (missing : dialogue.entryIndex? = none) :
    ∃ issue ∈ dialogue.issues known, issue.Blocks := by
  by_cases nothing : dialogue.lines.isEmpty = true
  · refine ⟨dialogue.issue none .empty, ?_, rfl⟩
    simp only [issues, nothing, ↓reduceIte, List.mem_singleton]
  · refine ⟨dialogue.issue none (.unknownEntry (dialogue.entry.getD "")), ?_, trivial⟩
    simp only [issues, nothing, Bool.false_eq_true, ↓reduceIte, List.mem_append]
    right
    simp only [entryIssues, missing, List.mem_singleton]

end Dialogue

namespace Choice

variable {choice : Choice}

/-- What can be reported of a choice, with the option it is about. -/
inductive Reported (known : String → Bool) (choice : Choice) :
    Option Nat → Problem → Prop where
  | empty (nothing : choice.lines = []) : Reported known choice none .empty
  | danglingNext {index : Nat} (inside : index < choice.lines.length)
      (away : isTerminal choice.lines[index].next = false)
      (unknown : known choice.lines[index].next = false) :
      Reported known choice (some index) (.danglingNext choice.lines[index].next)
  | invalidTutorialSkip (index : Nat) (skip : Int32) :
      Reported known choice (some index) (.invalidTutorialSkip skip)
  | unreachableChoice (closed : choice.lines.any (·.isOpenTo leastResponsibility) = false) :
      Reported known choice none .unreachableChoice

theorem reported_of_lineIssues {index : Nat} (inside : index < choice.lines.length)
    {issue : Issue} (member : issue ∈ lineIssues known choice index choice.lines[index]) :
    ∃ line problem, issue = choice.issue line problem ∧
      choice.Reported known line problem := by
  rcases List.mem_append.1 member with dangling | skip
  · split at dangling
    · contradiction
    · next nowhere =>
        simp only [Bool.or_eq_true, not_or, Bool.not_eq_true] at nowhere
        rw [List.mem_singleton.1 dangling]
        exact ⟨_, _, rfl, .danglingNext inside nowhere.1 nowhere.2⟩
  · split at skip
    · rw [List.mem_singleton.1 skip]
      exact ⟨_, _, rfl, .invalidTutorialSkip _ _⟩
    · contradiction

theorem reported_of_mem {issue : Issue} (member : issue ∈ choice.issues known) :
    ∃ line problem, issue = choice.issue line problem ∧
      choice.Reported known line problem := by
  unfold issues at member
  split at member
  · next nothing =>
      rw [List.mem_singleton.1 member]
      exact ⟨_, _, rfl, .empty (by simpa using nothing)⟩
  · rcases List.mem_append.1 member with member | closed
    · obtain ⟨⟨line, index⟩, numbered, member⟩ := List.mem_flatMap.1 member
      obtain ⟨inside, rfl⟩ := lt_of_numbered numbered
      exact reported_of_lineIssues inside member
    · split at closed
      · contradiction
      · next closes =>
          rw [List.mem_singleton.1 closed]
          exact ⟨_, _, rfl, .unreachableChoice (by simpa using closes)⟩

/-- No choice is blocked. -/
theorem Reported.not_blocks {issue : Issue} (kind : issue.kind = .choice)
    (reported : choice.Reported known issue.line issue.problem) : ¬issue.Blocks := by
  obtain ⟨_, id, line, problem⟩ := issue
  obtain rfl := kind
  cases reported <;> simp [Issue.Blocks]

theorem unreachableChoice_mem (nonempty : choice.lines ≠ [])
    (closed : choice.lines.any (·.isOpenTo leastResponsibility) = false) :
    choice.issue none .unreachableChoice ∈ choice.issues known := by
  have filled : choice.lines.isEmpty = false := List.isEmpty_eq_false_iff.2 nonempty
  simp only [issues, filled, closed, Bool.false_eq_true, ↓reduceIte, List.mem_append]
  exact .inr (List.mem_singleton.2 rfl)

end Choice

namespace Event

variable {σ : Type} {event : Event σ}

/-- What can be reported of an event. -/
inductive Reported (event : Event σ) : Option Nat → Problem → Prop where
  | unrecognizedLogic {tag : String} (unknown : event.logic = .unrecognized tag) :
      Reported event none (.unrecognizedLogic tag)
  | unrecognizedMode {tag : String} (unknown : event.mode = .unrecognized tag) :
      Reported event none (.unrecognizedMode tag)

theorem reported_of_mem {issue : Issue} (member : issue ∈ event.issues) :
    ∃ line problem, issue = ⟨.event, event.id, line, problem⟩ ∧
      event.Reported line problem := by
  rcases List.mem_append.1 member with unknown | unknown
  · split at unknown
    · next tag logic =>
        rw [List.mem_singleton.1 unknown]
        exact ⟨_, _, rfl, .unrecognizedLogic logic⟩
    · contradiction
  · split at unknown
    · next tag mode =>
        rw [List.mem_singleton.1 unknown]
        exact ⟨_, _, rfl, .unrecognizedMode mode⟩
    · contradiction

theorem Reported.not_playable {line : Option Nat} {problem : Problem}
    (reported : event.Reported line problem) : ¬event.Playable := by
  intro playable
  cases reported with
  | unrecognizedLogic unknown => exact playable.logic _ unknown
  | unrecognizedMode unknown => exact playable.mode _ unknown

/-- An event with an unknown tag has a report that blocks it. -/
theorem blocked_of_not_playable (unknown : ¬event.Playable) :
    ∃ issue ∈ event.issues, issue.Blocks := by
  cases logic : event.logic with
  | unrecognized tag =>
      refine ⟨⟨.event, event.id, none, .unrecognizedLogic tag⟩, ?_, trivial⟩
      apply List.mem_append_left
      simp only [logic, List.mem_singleton]
  | and | or =>
      cases mode : event.mode with
      | unrecognized tag =>
          refine ⟨⟨.event, event.id, none, .unrecognizedMode tag⟩, ?_, trivial⟩
          apply List.mem_append_right
          simp only [mode, List.mem_singleton]
      | sequential | concurrent =>
          exact absurd ⟨by simp [logic], by simp [mode]⟩ unknown

end Event

/-! ## What the check of a store reports of an id -/

namespace Store

variable {σ : Type} {store : Store σ} {id : String}

/-- No report of the check is about an id that several kinds of node share. -/
def Unshared (store : Store σ) : Prop :=
  ∀ issue ∈ store.validate, ∀ kinds, issue.problem ≠ .duplicateId kinds

theorem mem_distinctIds : id ∈ store.distinctIds ↔ store.contains id = true := by
  unfold distinctIds contains
  rw [Std.ExtTreeMap.mem_keys, Std.ExtTreeMap.mem_ofList]
  simp [Std.ExtTreeMap.mem_keys, or_assoc]

theorem Unshared.length_kindsOf (unshared : store.Unshared) (id : String) :
    (store.kindsOf id).length ≤ 1 := by
  by_cases contained : store.contains id = true
  · apply Nat.le_of_not_lt
    intro several
    refine unshared ⟨.node, id, none, .duplicateId (store.kindsOf id)⟩ ?_ _ rfl
    apply List.mem_append_right
    refine List.mem_flatMap.2 ⟨id, mem_distinctIds.2 contained, ?_⟩
    simp only [sharedIdIssues, several, ↓reduceIte, List.mem_singleton]
  · simp only [contains, Bool.or_eq_true, not_or, Bool.not_eq_true] at contained
    simp [kindsOf, contained]

/-- Where no id is shared, the id of a dialogue or a choice is not that of an event. -/
theorem Unshared.no_event (unshared : store.Unshared)
    (other : store.dialogues.contains id = true ∨ store.choices.contains id = true) :
    store.events[id]? = none := by
  have few := unshared.length_kindsOf id
  cases event : store.events[id]? with
  | none => rfl
  | some found =>
      have contained : store.events.contains id = true := by
        rw [Std.ExtTreeMap.contains_eq_isSome_getElem?, event]
        rfl
      rcases other with other | other <;>
        simp [kindsOf, contained, other] at few

/-- A report is about the node under its id, or about a shared id. -/
theorem Keyed.mem_validate_cases (keyed : store.Keyed) {issue : Issue}
    (member : issue ∈ store.validate) :
    (∃ dialogue, store.dialogues[issue.id]? = some dialogue ∧ issue.kind = .dialogue ∧
      dialogue.Reported store.contains issue.line issue.problem) ∨
    (∃ choice, store.choices[issue.id]? = some choice ∧ issue.kind = .choice ∧
      choice.Reported store.contains issue.line issue.problem) ∨
    (∃ event, store.events[issue.id]? = some event ∧ issue.kind = .event ∧
      event.Reported issue.line issue.problem) ∨
    ∃ kinds, issue.problem = .duplicateId kinds := by
  simp only [validate, List.mem_append, List.mem_flatMap] at member
  rcases member with ((⟨dialogue, listed, member⟩ | ⟨choice, listed, member⟩) |
    ⟨event, listed, member⟩) | ⟨name, _, member⟩
  · obtain ⟨name, lookup⟩ := Table.mem_values_iff.1 listed
    obtain ⟨line, problem, rfl, reported⟩ := Dialogue.reported_of_mem member
    have same : dialogue.id = name := keyed.dialogues name dialogue lookup
    exact .inl ⟨dialogue, by rw [Dialogue.issue, same, lookup], rfl, reported⟩
  · obtain ⟨name, lookup⟩ := Table.mem_values_iff.1 listed
    obtain ⟨line, problem, rfl, reported⟩ := Choice.reported_of_mem member
    have same : choice.id = name := keyed.choices name choice lookup
    exact .inr (.inl ⟨choice, by rw [Choice.issue, same, lookup], rfl, reported⟩)
  · obtain ⟨name, lookup⟩ := Table.mem_values_iff.1 listed
    obtain ⟨line, problem, rfl, reported⟩ := Event.reported_of_mem member
    have same : event.id = name := keyed.events name event lookup
    exact .inr (.inr (.inl ⟨event, by rw [same, lookup], rfl, reported⟩))
  · simp only [sharedIdIssues] at member
    split at member
    · rw [List.mem_singleton.1 member]
      exact .inr (.inr (.inr ⟨_, rfl⟩))
    · contradiction

end Store

end BranchingStory
