import BranchingStory.Proofs.Store.Keyed
import BranchingStory.Validation.Check

/-!
# Stories without errors are playable

What a player can run into at a node is reported by the check of that node: a dialogue
that cannot be entered, a line or an option that leads nowhere, a choice whose options
are all gated and an event with an unknown tag.  So where the check of a whole store
reports no error, every node of the store is free of all of them.
-/

namespace BranchingStory

namespace Table

variable {α : Type} {table : Table α}

theorem values_eq_map_toList (table : Table α) :
    table.values = table.toList.map Prod.snd := by
  have folded : table.values = table.foldr (fun _ value values => value :: values) [] := rfl
  rw [folded, Std.ExtTreeMap.foldr_eq_foldr_toList]
  induction table.toList with
  | nil => rfl
  | cons entry entries ih => simp only [List.foldr_cons, List.map_cons, ih]

theorem mem_values {name : String} {found : α} (lookup : table[name]? = some found) :
    found ∈ table.values := by
  rw [values_eq_map_toList]
  have entry : (name, found) ∈ table.toList :=
    Std.ExtTreeMap.mem_toList_iff_getElem?_eq_some.2 lookup
  exact List.mem_map.2 ⟨(name, found), entry, rfl⟩

end Table

open Validation

variable {known : String → Bool}

/-- A node with a line at an index is checked, and so is that line. -/
theorem Validation.numbered_of_lt {α : Type} {lines : List α} {index : Nat}
    (inside : index < lines.length) :
    lines.isEmpty = false ∧ (lines[index], index) ∈ lines.zipIdx := by
  constructor
  · rw [List.isEmpty_eq_false_iff]
    exact List.ne_nil_of_length_pos (by omega)
  · rw [List.mem_zipIdx_iff_getElem?]
    exact List.getElem?_eq_getElem inside

/-- No issue of a list is an error. -/
def Validation.Harmless (issues : List Issue) : Prop :=
  ∀ issue ∈ issues, issue.isError = false

namespace Dialogue

variable {dialogue : Dialogue} {index : Nat} {target : String}

theorem mem_issues_of_lineIssues (inside : index < dialogue.lines.length) {issue : Issue}
    (member : issue ∈ dialogue.keyIssues index (dialogue.lines.take index)
        dialogue.lines[index] ++ nextIssues known dialogue index dialogue.lines[index]) :
    issue ∈ dialogue.issues known := by
  obtain ⟨nonempty, numbered⟩ := numbered_of_lt inside
  simp only [issues, nonempty, Bool.false_eq_true, ↓reduceIte, List.mem_append]
  left
  exact List.mem_flatMap.2 ⟨_, numbered, member⟩

/-- A line that leads to an unknown node is reported. -/
theorem danglingNext_mem (inside : index < dialogue.lines.length)
    (classified : dialogue.classify dialogue.lines[index].next = .external target)
    (unknown : known target = false) :
    dialogue.issue (some index) (.danglingNext target) ∈ dialogue.issues known := by
  apply mem_issues_of_lineIssues inside
  apply List.mem_append_right
  simp only [nextIssues, classified, unknown, Bool.false_eq_true, ↓reduceIte,
    List.mem_singleton]

/-- A dialogue without an entry is reported, either as empty or for the name of it. -/
theorem issue_of_no_entry (known : String → Bool) (missing : dialogue.entryIndex? = none) :
    ∃ issue ∈ dialogue.issues known, issue.isError = true := by
  by_cases nothing : dialogue.lines.isEmpty = true
  · refine ⟨dialogue.issue none .empty, ?_, rfl⟩
    simp only [issues, nothing, ↓reduceIte, List.mem_singleton]
  · refine ⟨dialogue.issue none (.unknownEntry (dialogue.entry.getD "")), ?_, rfl⟩
    simp only [issues, nothing, Bool.false_eq_true, ↓reduceIte, List.mem_append]
    right
    simp only [entryIssues, missing, List.mem_singleton]

/-- A dialogue can be entered and left only for known nodes. -/
structure Playable (known : String → Bool) (dialogue : Dialogue) : Prop where
  entered : ∃ index, dialogue.entryIndex? = some index
  leads : ∀ (index : Nat) (inside : index < dialogue.lines.length) (target : String),
    dialogue.classify dialogue.lines[index].next = .external target → known target = true

theorem playable_of_issues (harmless : Harmless (dialogue.issues known)) :
    dialogue.Playable known := by
  constructor
  · cases entry : dialogue.entryIndex? with
    | some index => exact ⟨index, rfl⟩
    | none =>
        obtain ⟨issue, member, wrong⟩ := issue_of_no_entry known entry
        simp [harmless issue member] at wrong
  · intro index inside target classified
    cases unknown : known target with
    | true => rfl
    | false =>
        have accepted := harmless _ (danglingNext_mem inside classified unknown)
        contradiction

end Dialogue

namespace Choice

variable {choice : Choice} {index : Nat}

/-- An option that leads to an unknown node is reported. -/
theorem danglingNext_mem (inside : index < choice.lines.length)
    (nowhere : (isTerminal choice.lines[index].next || known choice.lines[index].next) =
      false) :
    choice.issue (some index) (.danglingNext choice.lines[index].next) ∈
      choice.issues known := by
  obtain ⟨nonempty, numbered⟩ := numbered_of_lt inside
  simp only [issues, nonempty, Bool.false_eq_true, ↓reduceIte, List.mem_append]
  left
  refine List.mem_flatMap.2 ⟨_, numbered, ?_⟩
  apply List.mem_append_left
  simp only [nowhere, Bool.false_eq_true, ↓reduceIte, List.mem_singleton]

/-- A choice whose options are all gated is reported, also when it has none. -/
theorem issue_of_closed (known : String → Bool)
    (closed : choice.lines.any (·.isOpenTo leastResponsibility) = false) :
    ∃ issue ∈ choice.issues known, issue.isError = true := by
  by_cases nothing : choice.lines.isEmpty = true
  · refine ⟨choice.issue none .empty, ?_, rfl⟩
    simp only [issues, nothing, ↓reduceIte, List.mem_singleton]
  · refine ⟨choice.issue none .unreachableChoice, ?_, rfl⟩
    simp only [issues, nothing, closed, Bool.false_eq_true, ↓reduceIte, List.mem_append]
    right
    exact List.mem_singleton.2 rfl

/-- Some option of a choice is open to everybody, and every option is the end or leads
to a known node. -/
structure Playable (known : String → Bool) (choice : Choice) : Prop where
  opens : ∃ line ∈ choice.lines, line.isOpenTo leastResponsibility = true
  leads : ∀ line ∈ choice.lines, isTerminal line.next = true ∨ known line.next = true

theorem playable_of_issues (harmless : Harmless (choice.issues known)) :
    choice.Playable known := by
  constructor
  · cases closed : choice.lines.any (·.isOpenTo leastResponsibility) with
    | true => exact List.any_eq_true.1 closed
    | false =>
        obtain ⟨issue, member, wrong⟩ := issue_of_closed known closed
        simp [harmless issue member] at wrong
  · intro line member
    obtain ⟨index, inside, rfl⟩ := List.mem_iff_getElem.1 member
    rw [← Bool.or_eq_true]
    cases nowhere : isTerminal choice.lines[index].next || known choice.lines[index].next with
    | true => rfl
    | false =>
        have accepted := harmless _ (danglingNext_mem inside nowhere)
        contradiction

end Choice

namespace Event

variable {σ : Type} {event : Event σ}

/-- Both tags of an event are recognized. -/
structure Playable (event : Event σ) : Prop where
  logic : ∀ tag, event.logic ≠ .unrecognized tag
  mode : ∀ tag, event.mode ≠ .unrecognized tag

theorem playable_of_issues (harmless : Harmless event.issues) : event.Playable := by
  constructor
  · intro tag unrecognized
    have accepted := harmless ⟨.event, event.id, none, .unrecognizedLogic tag⟩ (by
      apply List.mem_append_left
      simp only [unrecognized, List.mem_singleton])
    contradiction
  · intro tag unrecognized
    have accepted := harmless ⟨.event, event.id, none, .unrecognizedMode tag⟩ (by
      apply List.mem_append_right
      simp only [unrecognized, List.mem_singleton])
    contradiction

end Event

namespace Store

variable {σ : Type} {store : Store σ} {id : String}

/-- Every node that an id of the store means is playable. -/
structure Playable (store : Store σ) : Prop where
  dialogue : ∀ {id : String} {dialogue : Dialogue},
    store.node? id = some (.dialogue dialogue) → dialogue.Playable store.contains
  choice : ∀ {id : String} {choice : Choice},
    store.node? id = some (.choice choice) → choice.Playable store.contains
  event : ∀ {id : String} {event : Event σ},
    store.node? id = some (.event event) → event.Playable

theorem mem_validate_of_dialogue {dialogue : Dialogue} {issue : Issue}
    (lookup : store.dialogues[id]? = some dialogue)
    (member : issue ∈ dialogue.issues store.contains) : issue ∈ store.validate := by
  simp only [validate, List.mem_append, List.mem_flatMap]
  exact .inl (.inl (.inl ⟨dialogue, Table.mem_values lookup, member⟩))

theorem mem_validate_of_choice {choice : Choice} {issue : Issue}
    (lookup : store.choices[id]? = some choice)
    (member : issue ∈ choice.issues store.contains) : issue ∈ store.validate := by
  simp only [validate, List.mem_append, List.mem_flatMap]
  exact .inl (.inl (.inr ⟨choice, Table.mem_values lookup, member⟩))

theorem mem_validate_of_event {event : Event σ} {issue : Issue}
    (lookup : store.events[id]? = some event) (member : issue ∈ event.issues) :
    issue ∈ store.validate := by
  simp only [validate, List.mem_append, List.mem_flatMap]
  exact .inl (.inr ⟨event, Table.mem_values lookup, member⟩)

/-- A store in which the check finds no error is playable. -/
theorem playable_of_validate (harmless : Harmless store.validate) : store.Playable := by
  constructor
  · intro id dialogue found
    rcases node?_cases found with ⟨_, lookup, same⟩ | ⟨_, _, other⟩ | ⟨_, _, other⟩
    · cases same
      apply Dialogue.playable_of_issues
      intro issue member
      exact harmless issue (mem_validate_of_dialogue lookup member)
    · cases other
    · cases other
  · intro id choice found
    rcases node?_cases found with ⟨_, _, other⟩ | ⟨_, lookup, same⟩ | ⟨_, _, other⟩
    · cases other
    · cases same
      apply Choice.playable_of_issues
      intro issue member
      exact harmless issue (mem_validate_of_choice lookup member)
    · cases other
  · intro id event found
    rcases node?_cases found with ⟨_, _, other⟩ | ⟨_, _, other⟩ | ⟨_, lookup, same⟩
    · cases other
    · cases other
    · cases same
      apply Event.playable_of_issues
      intro issue member
      exact harmless issue (mem_validate_of_event lookup member)

end Store

end BranchingStory
