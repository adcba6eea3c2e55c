import BranchingStory.Proofs.Dialogue.Walk
import BranchingStory.Proofs.Validation.Prediction

/-!
# Lines that no walk comes to

The sweep of a dialogue takes lines from its queue until there are none left.  It takes at
most one more than the dialogue has lines, for whatever it takes was met before or is met
now.  What it has met by then are the lines that follow the entry, so the lines reported as
unreachable are those that no walk of a cursor from the entry comes to.
-/

namespace BranchingStory

open Validation

namespace Validation.Sweep

variable {dialogue : Dialogue} {entry index : Nat} {sweep last : Sweep} {queue : List Nat}

/-! ## What a sweep keeps -/

/-- The lines that a sweep has met or still looks at. -/
def known (sweep : Sweep) : List Nat := sweep.reached ++ sweep.queue

theorem mem_known : index ∈ sweep.known ↔ index ∈ sweep.reached ∨ index ∈ sweep.queue :=
  List.mem_append

/-- A sweep from a line knows that line and only lines that follow it, and it knows what
the lines that it has met lead to. -/
structure Faithful (dialogue : Dialogue) (entry : Nat) (sweep : Sweep) : Prop where
  sound : ∀ index ∈ sweep.known, dialogue.Meets entry index
  begun : entry ∈ sweep.known
  closed : ∀ index ∈ sweep.reached, ∀ next, successor? dialogue index = some next →
    next ∈ sweep.known

theorem faithful_start (dialogue : Dialogue) (entry : Nat) :
    (start entry).Faithful dialogue entry := by
  constructor
  · intro index member
    rw [List.mem_singleton.1 member]
    exact .here
  · exact List.mem_singleton.2 rfl
  · intro index member
    contradiction

theorem dequeue_of_met (taken : sweep.queue = index :: queue) (met : index ∈ sweep.reached) :
    sweep.dequeue dialogue = { sweep with queue } := by
  simp only [dequeue, taken, if_pos met]

theorem dequeue_of_new (taken : sweep.queue = index :: queue)
    (unmet : index ∉ sweep.reached) :
    sweep.dequeue dialogue =
      ⟨index :: sweep.reached, queue ++ (successor? dialogue index).toList⟩ := by
  simp only [dequeue, taken, if_neg unmet]

theorem mem_known_of_taken (taken : sweep.queue = index :: queue) : index ∈ sweep.known :=
  mem_known.2 (.inr (taken ▸ List.mem_cons_self))

/-- A line that was met before tells nothing. -/
theorem mem_known_of_met (taken : sweep.queue = index :: queue)
    (met : index ∈ sweep.reached) {other : Nat} :
    other ∈ (sweep.dequeue dialogue).known ↔ other ∈ sweep.known := by
  rw [dequeue_of_met taken met, mem_known, mem_known, taken, List.mem_cons]
  constructor
  · exact Or.imp_right .inr
  · rintro (before | rfl | waiting)
    · exact .inl before
    · exact .inl met
    · exact .inr waiting

/-- A line that is met now tells which line it leads to. -/
theorem mem_known_of_new (taken : sweep.queue = index :: queue)
    (unmet : index ∉ sweep.reached) {other : Nat} :
    other ∈ (sweep.dequeue dialogue).known ↔
      other ∈ sweep.known ∨ successor? dialogue index = some other := by
  rw [dequeue_of_new taken unmet, mem_known, mem_known, taken]
  simp only [List.mem_cons, List.mem_append, Option.mem_toList]
  grind

theorem Faithful.dequeue (faithful : sweep.Faithful dialogue entry) :
    (sweep.dequeue dialogue).Faithful dialogue entry := by
  cases taken : sweep.queue with
  | nil =>
      have kept : sweep.dequeue dialogue = sweep := by simp only [Sweep.dequeue, taken]
      rw [kept]
      exact faithful
  | cons index queue =>
      have meets := faithful.sound index (mem_known_of_taken taken)
      by_cases met : index ∈ sweep.reached
      · constructor
        · intro other member
          exact faithful.sound other ((mem_known_of_met taken met).1 member)
        · exact (mem_known_of_met taken met).2 faithful.begun
        · intro other before next leads
          rw [dequeue_of_met taken met] at before
          exact (mem_known_of_met taken met).2 (faithful.closed other before next leads)
      · constructor
        · intro other member
          rcases (mem_known_of_new taken met).1 member with before | leads
          · exact faithful.sound other before
          · exact meets.next leads
        · exact (mem_known_of_new taken met).2 (.inl faithful.begun)
        · intro other before next leads
          apply (mem_known_of_new taken met).2
          rw [dequeue_of_new taken met] at before
          rcases List.mem_cons.1 before with rfl | before
          · exact .inr leads
          · exact .inl (faithful.closed other before next leads)

/-! ## The queue runs empty -/

/-- A sweep has an empty queue after taking a number of lines, one after another, and then
is another one. -/
inductive Empties (dialogue : Dialogue) : Sweep → Nat → Sweep → Prop where
  | done {sweep : Sweep} (nothing : sweep.queue = []) : Empties dialogue sweep 0 sweep
  | take {sweep last : Sweep} {count : Nat} (waiting : sweep.queue ≠ [])
      (rest : Empties dialogue (sweep.dequeue dialogue) count last) :
      Empties dialogue sweep (count + 1) last

theorem Empties.queue_eq_nil {count : Nat} (empties : Empties dialogue sweep count last) :
    last.queue = [] := by
  induction empties with
  | done nothing => exact nothing
  | take waiting rest ih => exact ih

theorem Empties.faithful {count : Nat} (empties : Empties dialogue sweep count last)
    (faithful : sweep.Faithful dialogue entry) : last.Faithful dialogue entry := by
  induction empties with
  | done nothing => exact faithful
  | take waiting rest ih => exact ih faithful.dequeue

/-- A limit that is not below the number of lines taken has no effect. -/
theorem Empties.run_eq {count : Nat} (empties : Empties dialogue sweep count last)
    {limit : Nat} (enough : count ≤ limit) : sweep.run dialogue limit = last := by
  induction empties generalizing limit with
  | done nothing =>
      cases limit with
      | zero => rfl
      | succ limit => simp only [run, nothing, List.isEmpty_nil, ↓reduceIte]
  | take waiting rest ih =>
      cases limit with
      | zero => exact absurd enough (Nat.not_succ_le_zero _)
      | succ limit =>
          have filled := List.isEmpty_eq_false_iff.2 waiting
          simp only [run, filled, Bool.false_eq_true, ↓reduceIte]
          exact ih (Nat.le_of_succ_le_succ enough)

/-- The lines of a dialogue that were not met yet. -/
def unmet (dialogue : Dialogue) (sweep : Sweep) : List Nat :=
  (List.range dialogue.lines.length).filter fun index => index ∉ sweep.reached

/-- How many lines a sweep can still take. -/
def remaining (dialogue : Dialogue) (sweep : Sweep) : Nat :=
  sweep.queue.length + (sweep.unmet dialogue).length

theorem remaining_start (dialogue : Dialogue) (entry : Nat) :
    (start entry).remaining dialogue = dialogue.lines.length + 1 := by
  have all : (start entry).unmet dialogue = List.range dialogue.lines.length := by
    apply List.filter_eq_self.2
    intro index _
    simp [start]
  rw [remaining, all, List.length_range]
  exact Nat.add_comm _ _

/-- Meeting a line makes the unmet ones fewer. -/
theorem length_unmet_lt (inside : index < dialogue.lines.length)
    (fresh : index ∉ sweep.reached) (queue : List Nat) :
    (Sweep.unmet dialogue ⟨index :: sweep.reached, queue⟩).length <
      (sweep.unmet dialogue).length := by
  have fewer : Sweep.unmet dialogue ⟨index :: sweep.reached, queue⟩ =
      (sweep.unmet dialogue).filter (· ≠ index) := by
    simp only [unmet, List.filter_filter]
    apply List.filter_congr
    intro other _
    simp [not_or]
  rw [fewer]
  apply List.length_filter_lt_length_iff_exists.2
  exact ⟨index, by simp [unmet, inside, fresh], by simp⟩

/-- Every line that is taken leaves fewer to take. -/
theorem remaining_dequeue_lt (inside : ∀ index ∈ sweep.known, index < dialogue.lines.length)
    (waiting : sweep.queue ≠ []) :
    (sweep.dequeue dialogue).remaining dialogue < sweep.remaining dialogue := by
  obtain ⟨index, queue, taken⟩ := List.exists_cons_of_ne_nil waiting
  by_cases met : index ∈ sweep.reached
  · rw [dequeue_of_met taken met]
    simp only [remaining, unmet, taken, List.length_cons]
    omega
  · have fewer := length_unmet_lt (inside index (mem_known_of_taken taken)) met
      (queue ++ (successor? dialogue index).toList)
    have atMostOne : (successor? dialogue index).toList.length ≤ 1 := by
      cases successor? dialogue index <;> simp
    rw [dequeue_of_new taken met]
    simp only [remaining, taken, List.length_cons, List.length_append]
    omega

theorem exists_empties {bound : Nat} (inside : entry < dialogue.lines.length)
    (faithful : sweep.Faithful dialogue entry) (few : sweep.remaining dialogue ≤ bound) :
    ∃ count last, Empties dialogue sweep count last ∧ count ≤ bound := by
  induction bound generalizing sweep with
  | zero =>
      refine ⟨0, sweep, .done ?_, Nat.le_refl 0⟩
      apply List.length_eq_zero_iff.1
      exact Nat.le_zero.1 (Nat.le_trans (Nat.le_add_right _ _) few)
  | succ bound ih =>
      by_cases waiting : sweep.queue = []
      · exact ⟨0, sweep, .done waiting, Nat.zero_le _⟩
      · have fewer := remaining_dequeue_lt
          (fun index member => (faithful.sound index member).inside inside) waiting
        obtain ⟨count, last, empties, least⟩ :=
          ih faithful.dequeue (Nat.le_of_lt_succ (Nat.lt_of_lt_of_le fewer few))
        exact ⟨count + 1, last, .take waiting empties, Nat.succ_le_succ least⟩

/-- Once nothing is left to look at, the lines met are all that follow the first one. -/
theorem Faithful.mem_reached_iff (faithful : sweep.Faithful dialogue entry)
    (nothing : sweep.queue = []) : index ∈ sweep.reached ↔ dialogue.Meets entry index := by
  have all (index : Nat) : index ∈ sweep.known ↔ index ∈ sweep.reached := by
    rw [mem_known, nothing, or_iff_left List.not_mem_nil]
  constructor
  · intro met
    exact faithful.sound index ((all index).2 met)
  · intro meets
    induction meets with
    | here => exact (all entry).1 faithful.begun
    | next before leads ih => exact (all _).1 (faithful.closed _ ih _ leads)

end Validation.Sweep

namespace Validation

variable {dialogue : Dialogue} {entry index : Nat}

/-- The sweep from a line ends in time, with what the check takes it to have met. -/
theorem exists_empties_start (inside : entry < dialogue.lines.length) :
    ∃ count last, Sweep.Empties dialogue (.start entry) count last ∧
      count ≤ dialogue.lines.length + 1 ∧ last.reached = reachedFrom dialogue entry := by
  obtain ⟨count, last, empties, least⟩ := Sweep.exists_empties inside
    (Sweep.faithful_start dialogue entry) (Nat.le_of_eq (Sweep.remaining_start dialogue entry))
  exact ⟨count, last, empties, least, by rw [reachedFrom, empties.run_eq least]⟩

theorem mem_reachedFrom_iff (inside : entry < dialogue.lines.length) :
    index ∈ reachedFrom dialogue entry ↔ dialogue.Meets entry index := by
  obtain ⟨count, last, empties, _, same⟩ := exists_empties_start inside
  rw [← same]
  exact (empties.faithful (Sweep.faithful_start dialogue entry)).mem_reached_iff
    empties.queue_eq_nil

theorem mem_unreachedFrom_iff (inside : entry < dialogue.lines.length) :
    index ∈ unreachedFrom dialogue entry ↔
      index < dialogue.lines.length ∧ ¬dialogue.Meets entry index := by
  rw [← mem_reachedFrom_iff inside]
  simp [unreachedFrom]

theorem unreachedFrom_pairwise (dialogue : Dialogue) (entry : Nat) :
    (unreachedFrom dialogue entry).Pairwise (· < ·) :=
  List.pairwise_lt_range.filter _

/-- The issue of a line that cannot be reached. -/
def Issue.unreachable (id : String) (index : Nat) : Issue :=
  ⟨.dialogue, id, some index, .unreachableLine index⟩

theorem Issue.unreachable_injective {id : String} {left right : Nat}
    (same : unreachable id left = unreachable id right) : left = right := by
  cases same
  rfl

/-- The issue is a line that cannot be reached, of the node with an id. -/
def Issue.tellsUnreachable (id : String) (issue : Issue) : Bool :=
  match issue.problem with
  | .unreachableLine _ => issue.id == id
  | _ => false

/-- Where no item gives an issue of some kind, all of them together give none. -/
theorem filter_flatMap_eq_nil {α : Type} {items : List α} {gives : α → List Issue}
    {tells : Issue → Bool}
    (silent : ∀ item ∈ items, ∀ issue ∈ gives item, tells issue = false) :
    (items.flatMap gives).filter tells = [] := by
  apply List.filter_eq_nil_iff.2
  intro issue member
  obtain ⟨item, listed, given⟩ := List.mem_flatMap.1 member
  exact Bool.eq_false_iff.1 (silent item listed issue given)

end Validation

/-! ## What is reported of a dialogue -/

namespace Dialogue

variable {known : String → Bool} {dialogue : Dialogue} {entry : Nat}

/-- The checks of single lines are silent about what can be reached. -/
theorem tellsUnreachable_of_lineIssues {issue : Issue}
    (member : issue ∈ dialogue.lineIssues known) (id : String) :
    issue.tellsUnreachable id = false := by
  simp only [lineIssues, List.mem_flatMap, List.mem_append] at member
  obtain ⟨⟨line, index⟩, _, duplicate | dangling⟩ := member
  · unfold keyIssues at duplicate
    split at duplicate
    · contradiction
    · split at duplicate
      · rw [List.mem_singleton.1 duplicate]
        rfl
      · contradiction
  · unfold nextIssues at dangling
    split at dangling
    · split at dangling
      · contradiction
      · rw [List.mem_singleton.1 dangling]
        rfl
    · contradiction

/-- The unreachable lines of a dialogue are reported in order, each once. -/
theorem filter_issues_unreachable (entered : dialogue.entryIndex? = some entry) :
    (dialogue.issues known).filter (Issue.tellsUnreachable dialogue.id) =
      (unreachedFrom dialogue entry).map (Issue.unreachable dialogue.id) := by
  have filled : dialogue.lines.isEmpty = false :=
    List.isEmpty_eq_false_iff.2 (List.ne_nil_of_length_pos
      (Nat.lt_of_le_of_lt (Nat.zero_le entry) (entryIndex?_lt entered)))
  have silent : (dialogue.lineIssues known).filter
      (Issue.tellsUnreachable dialogue.id) = [] := by
    apply List.filter_eq_nil_iff.2
    intro issue member
    simp [tellsUnreachable_of_lineIssues member]
  simp only [issues, filled, Bool.false_eq_true, ↓reduceIte, List.filter_append, silent,
    List.nil_append, entryIssues, entered]
  apply List.filter_eq_self.2
  intro issue member
  obtain ⟨index, _, rfl⟩ := List.mem_map.1 member
  simp [Issue.tellsUnreachable, issue]

/-- The issues of a dialogue are issues of its id. -/
theorem filter_issues_of_id_ne {id : String} (different : dialogue.id ≠ id) :
    (dialogue.issues known).filter (Issue.tellsUnreachable id) = [] := by
  apply List.filter_eq_nil_iff.2
  intro issue member
  obtain ⟨line, problem, rfl, _⟩ := reported_of_mem member
  cases problem <;> simp [Issue.tellsUnreachable, issue, different]

end Dialogue

/-! ## What is reported of a store -/

namespace Table

variable {α β : Type}

/-- Where only the entry of one name gives something, the table gives what that gives. -/
theorem flatMap_values {table : Table α} {name : String} {found : α}
    (lookup : table[name]? = some found) {gives : α → List β}
    (others : ∀ other stored, table[other]? = some stored → other ≠ name →
      gives stored = []) :
    table.values.flatMap gives = gives found := by
  have distinct : (table.toList.map Prod.fst).Nodup := by
    rw [Std.ExtTreeMap.map_fst_toList_eq_keys]
    exact Std.ExtTreeMap.nodup_keys
  have member : (name, found) ∈ table.toList :=
    Std.ExtTreeMap.mem_toList_iff_getElem?_eq_some.2 lookup
  have silent : ∀ entry ∈ table.toList, entry.1 ≠ name → gives entry.2 = [] := by
    intro entry listed different
    exact others entry.1 entry.2
      (Std.ExtTreeMap.mem_toList_iff_getElem?_eq_some.1 listed) different
  rw [values_eq_map_toList, List.flatMap_map]
  generalize table.toList = entries at distinct member silent
  induction entries with
  | nil => contradiction
  | cons entry entries ih =>
      obtain ⟨fresh, distinct⟩ := List.nodup_cons.1 distinct
      obtain ⟨first, rest⟩ := List.forall_mem_cons.1 silent
      rw [List.flatMap_cons]
      rcases List.mem_cons.1 member with rfl | later
      · have nothing : entries.flatMap (fun entry => gives entry.2) = [] := by
          apply List.flatMap_eq_nil_iff.2
          intro other listed
          apply rest other listed
          intro same
          exact fresh (List.mem_map.2 ⟨other, listed, same⟩)
        rw [nothing, List.append_nil]
      · have different : entry.1 ≠ name := by
          intro same
          exact fresh (List.mem_map.2 ⟨_, later, same.symm⟩)
        rw [first different, List.nil_append]
        exact ih distinct later rest

end Table

namespace Store

variable {σ : Type} {store : Store σ} {id : String} {dialogue : Dialogue}

/-- Only the check of dialogues reports lines that cannot be reached. -/
theorem filter_validate_unreachable (store : Store σ) (id : String) :
    store.validate.filter (Issue.tellsUnreachable id) =
      store.dialogues.values.flatMap fun dialogue =>
        (dialogue.issues store.contains).filter (Issue.tellsUnreachable id) := by
  have ofChoices : (store.choices.values.flatMap (Choice.issues store.contains)).filter
      (Issue.tellsUnreachable id) = [] := by
    apply filter_flatMap_eq_nil
    intro choice _ issue member
    obtain ⟨line, problem, rfl, reported⟩ := Choice.reported_of_mem member
    cases reported <;> simp [Issue.tellsUnreachable, Choice.issue]
  have ofEvents : (store.events.values.flatMap Event.issues).filter
      (Issue.tellsUnreachable id) = [] := by
    apply filter_flatMap_eq_nil
    intro event _ issue member
    obtain ⟨line, problem, rfl, reported⟩ := Event.reported_of_mem member
    cases reported <;> simp [Issue.tellsUnreachable]
  have ofIds : (store.distinctIds.flatMap store.sharedIdIssues).filter
      (Issue.tellsUnreachable id) = [] := by
    apply filter_flatMap_eq_nil
    intro shared _ issue member
    simp only [sharedIdIssues] at member
    split at member
    · rw [List.mem_singleton.1 member]
      simp [Issue.tellsUnreachable]
    · contradiction
  simp only [validate, List.filter_append, ofChoices, ofEvents, ofIds, List.append_nil,
    List.filter_flatMap]

/-- The lines that the check reports as unreachable in a dialogue. -/
theorem Keyed.filter_validate_unreachable (keyed : store.Keyed)
    (lookup : store.dialogues[id]? = some dialogue) {entry : Nat}
    (entered : dialogue.entryIndex? = some entry) :
    store.validate.filter (Issue.tellsUnreachable id) =
      (unreachedFrom dialogue entry).map (Issue.unreachable id) := by
  have same : dialogue.id = id := keyed.dialogues id dialogue lookup
  have others : ∀ other stored, store.dialogues[other]? = some stored → other ≠ id →
      (stored.issues store.contains).filter (Issue.tellsUnreachable id) = [] := by
    intro other stored found different
    apply Dialogue.filter_issues_of_id_ne
    rw [show stored.id = other from keyed.dialogues other stored found]
    exact different
  rw [Store.filter_validate_unreachable, Table.flatMap_values lookup others, ← same]
  exact Dialogue.filter_issues_unreachable entered

/-- For a dialogue that can be begun the check reports as unreachable the lines to which no
number of calls brings a cursor that was started in it, and no others, each once and in
increasing order.  The sweep that finds them takes at most one line more from its queue
than the dialogue has, and what it has met when the queue is empty is what the check goes
by. -/
theorem unreachable_reported_iff_no_walk (constructed : store.Constructed)
    (found : store.dialogue id = .ok dialogue) {entry : Nat}
    (entered : dialogue.entryIndex? = some entry) :
    (∃ (cursor : Cursor) (reported : List Nat), Cursor.start dialogue = .ok cursor ∧
      store.validate.filter (Issue.tellsUnreachable id) =
        reported.map (Issue.unreachable id) ∧
      reported.Pairwise (· < ·) ∧
      ∀ index, index ∈ reported ↔ index < dialogue.lines.length ∧
        ∀ count, (cursor.walk count).index? ≠ some index) ∧
    ∃ count last, Sweep.Empties dialogue (.start entry) count last ∧
      count ≤ dialogue.lines.length + 1 ∧ last.reached = reachedFrom dialogue entry := by
  have inside : entry < dialogue.lines.length := Dialogue.entryIndex?_lt entered
  refine ⟨⟨_, unreachedFrom dialogue entry, Cursor.start_of_entry entered, ?_,
    unreachedFrom_pairwise dialogue entry, ?_⟩, exists_empties_start inside⟩
  · exact constructed.keyed.filter_validate_unreachable (lookup_of_dialogue found) entered
  · intro index
    rw [mem_unreachedFrom_iff inside, ← Cursor.exists_walk_iff inside, not_exists]

end Store

namespace Sample

/-- A dialogue of two circles: one of two lines, on which the entry lies, and one of a
single line, which a line leads to that nothing leads to. -/
def circles : Dialogue :=
  ⟨"circles", some "a",
    [⟨some "a", "Mara", "Again?", "", none, none, none, "2"⟩,
      ⟨none, "Keeper", "Still here.", "", none, none, none, "1"⟩,
      ⟨none, "Keeper", "Again.", "", none, none, none, "a"⟩,
      ⟨none, "Mara", "Wait.", "", none, none, none, "+1"⟩]⟩

def circling : Store Variables := Store.empty.insertDialogue circles

end Sample

/-- The two lines off the circle of the entry are reported, and no number of calls brings a
cursor to one of them. -/
theorem Store.unreachable_reported_iff_no_walk_circles :
    Sample.circling.Constructed ∧
    Sample.circling.dialogue "circles" = .ok Sample.circles ∧
    Sample.circles.entryIndex? = some 0 ∧
    Sample.circling.validate.filter (Issue.tellsUnreachable "circles") =
      [1, 3].map (Issue.unreachable "circles") ∧
    ∃ cursor, Cursor.start Sample.circles = .ok cursor ∧
      (∀ count, (cursor.walk count).index? ≠ some 1) ∧
      ∀ count, (cursor.walk count).index? ≠ some 3 := by
  have constructed : Sample.circling.Constructed := Store.Constructed.empty.insertDialogue _
  have found : Sample.circling.dialogue "circles" = .ok Sample.circles := by rfl
  have entered : Sample.circles.entryIndex? = some 0 := by decide +kernel
  have reports : Sample.circling.validate.filter (Issue.tellsUnreachable "circles") =
      [1, 3].map (Issue.unreachable "circles") := by
    decide +kernel
  obtain ⟨⟨cursor, reported, started, listed, _, exactly⟩, _⟩ :=
    unreachable_reported_iff_no_walk constructed found entered
  rw [reports] at listed
  obtain rfl : [1, 3] = reported :=
    (List.map_inj_right fun _ _ => Issue.unreachable_injective).1 listed
  exact ⟨constructed, found, entered, reports, cursor, started,
    ((exactly 1).1 (by decide)).2, ((exactly 3).1 (by decide)).2⟩

end BranchingStory
