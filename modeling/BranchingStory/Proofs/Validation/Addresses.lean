import BranchingStory.Proofs.Validation.Playable

/-!
# Which lines answer to one name

A line with a key answers to its key and to nothing else, and a line without one to every
numeral of its index.  Two lines with one key are an error, and two lines without a key have
no numeral in common.  So where the check of a store finds no error, at most two lines of a
dialogue answer to one name, a line with that key and a line with that index.

That a key of one line is a numeral of the index of another one is not reported.  Such a name
means the line that comes first.
-/

namespace BranchingStory

open Validation

namespace Dialogue

variable {dialogue : Dialogue} {name : String} {i j : Nat} {known : String → Bool}

/-- The line at an index answers to a name. -/
def Answers (dialogue : Dialogue) (name : String) (index : Nat) : Prop :=
  ∃ line ∈ dialogue.lines[index]?, line.answersTo index name = true

/-- The line at an index has a name for its key. -/
def Keyed (dialogue : Dialogue) (name : String) (index : Nat) : Prop :=
  ∃ line ∈ dialogue.lines[index]?, line.key = some name

/-- The line at an index has no key, and a name is a numeral of the index. -/
def Numbered (dialogue : Dialogue) (name : String) (index : Nat) : Prop :=
  (∃ line ∈ dialogue.lines[index]?, line.key = none) ∧
    Text.Numeral.index? name = some index

/-- At most one line answers to a name. -/
def Unambiguous (dialogue : Dialogue) (name : String) : Prop :=
  ∀ i j, dialogue.Answers name i → dialogue.Answers name j → i = j

theorem answers_iff :
    dialogue.Answers name i ↔ dialogue.Keyed name i ∨ dialogue.Numbered name i := by
  constructor
  · intro ⟨line, here, answers⟩
    cases key : line.key with
    | some other =>
        simp only [DialogueLine.answersTo, key, beq_iff_eq] at answers
        exact .inl ⟨line, here, by rw [key, answers]⟩
    | none =>
        simp only [DialogueLine.answersTo, key, beq_iff_eq] at answers
        exact .inr ⟨⟨line, here, key⟩, answers⟩
  · intro either
    cases either with
    | inl keyed =>
        have ⟨line, here, key⟩ := keyed
        exact ⟨line, here, by simp only [DialogueLine.answersTo, key, beq_self_eq_true]⟩
    | inr numbered =>
        have ⟨⟨line, here, key⟩, numeral⟩ := numbered
        exact ⟨line, here, by simp only [DialogueLine.answersTo, key, numeral, beq_self_eq_true]⟩

theorem Keyed.answers (keyed : dialogue.Keyed name i) : dialogue.Answers name i :=
  answers_iff.2 (.inl keyed)

theorem Numbered.answers (numbered : dialogue.Numbered name i) : dialogue.Answers name i :=
  answers_iff.2 (.inr numbered)

theorem Keyed.not_numbered (keyed : dialogue.Keyed name i) : ¬dialogue.Numbered name i := by
  intro ⟨⟨other, there, unkeyed⟩, _⟩
  have ⟨line, here, key⟩ := keyed
  rw [Option.mem_unique there here, key] at unkeyed
  contradiction

theorem Numbered.unique (left : dialogue.Numbered name i) (right : dialogue.Numbered name j) :
    i = j :=
  Option.some.inj (left.2.symm.trans right.2)

/-- A key that a line before has is reported. -/
theorem duplicateLineKey_mem (before : i < j) (left : dialogue.Keyed name i)
    (right : dialogue.Keyed name j) :
    dialogue.issue (some j) (.duplicateLineKey name) ∈ dialogue.issues known := by
  have ⟨earlier, there, same⟩ := left
  have ⟨line, here, key⟩ := right
  have ⟨inside, stands⟩ := List.getElem?_eq_some_iff.1 (Option.mem_def.1 here)
  apply mem_issues_of_lineIssues inside
  apply List.mem_append_left
  have taken : earlier ∈ dialogue.lines.take j :=
    List.mem_of_getElem? ((List.getElem?_take_of_lt before).trans there)
  have twice : (dialogue.lines.take j).any (fun earlier => earlier.key == some name) = true :=
    List.any_eq_true.2 ⟨earlier, taken, beq_iff_eq.2 same⟩
  simp only [keyIssues, stands, key, twice, ↓reduceIte, List.mem_singleton]

theorem Keyed.unique (harmless : Harmless (dialogue.issues known))
    (left : dialogue.Keyed name i) (right : dialogue.Keyed name j) : i = j := by
  rcases Nat.lt_trichotomy i j with before | same | after
  · have accepted := harmless _ (duplicateLineKey_mem before left right)
    contradiction
  · exact same
  · have accepted := harmless _ (duplicateLineKey_mem after right left)
    contradiction

/-- Of two lines that answer to one name, one has it for its key and the other one for a numeral
of its index. -/
theorem crossed_of_answers (harmless : Harmless (dialogue.issues known)) (different : i ≠ j)
    (left : dialogue.Answers name i) (right : dialogue.Answers name j) :
    (dialogue.Keyed name i ∧ dialogue.Numbered name j) ∨
      (dialogue.Numbered name i ∧ dialogue.Keyed name j) := by
  cases answers_iff.1 left with
  | inl keyed =>
      cases answers_iff.1 right with
      | inl other => exact absurd (keyed.unique harmless other) different
      | inr numbered => exact .inl ⟨keyed, numbered⟩
  | inr numbered =>
      cases answers_iff.1 right with
      | inl keyed => exact .inr ⟨numbered, keyed⟩
      | inr other => exact absurd (numbered.unique other) different

theorem unambiguous_iff (harmless : Harmless (dialogue.issues known)) :
    dialogue.Unambiguous name ↔ ∀ i j, dialogue.Keyed name i → ¬dialogue.Numbered name j := by
  constructor
  · intro unambiguous i j keyed numbered
    have same := unambiguous i j keyed.answers numbered.answers
    exact (same ▸ keyed).not_numbered numbered
  · intro apart i j left right
    by_cases same : i = j
    · exact same
    · cases crossed_of_answers harmless same left right with
      | inl both => exact absurd both.2 (apart i j both.1)
      | inr both => exact absurd both.1 (apart j i both.2)

end Dialogue

namespace Store

variable {σ : Type} {store : Store σ} {id : String} {dialogue : Dialogue}

theorem harmless_of_dialogue (harmless : Harmless store.validate)
    (lookup : store.dialogues[id]? = some dialogue) :
    Harmless (dialogue.issues store.contains) := by
  intro issue member
  exact harmless issue (mem_validate_of_dialogue lookup member)

/-- Where the check finds no error, two lines of a dialogue that answer to one name are a line
with that key and a line without a key whose index the name is a numeral of.  So exactly the
names that are not both are unambiguous. -/
theorem harmless_answers (harmless : Harmless store.validate)
    (lookup : store.dialogues[id]? = some dialogue) (name : String) :
    (∀ i j, i ≠ j → dialogue.Answers name i → dialogue.Answers name j →
      (dialogue.Keyed name i ∧ dialogue.Numbered name j) ∨
        (dialogue.Numbered name i ∧ dialogue.Keyed name j)) ∧
    (dialogue.Unambiguous name ↔
      ∀ i j, dialogue.Keyed name i → ¬dialogue.Numbered name j) := by
  have fine := harmless_of_dialogue harmless lookup
  constructor
  · intro i j different left right
    exact Dialogue.crossed_of_answers fine different left right
  · exact Dialogue.unambiguous_iff fine

end Store

namespace Sample

/-- A dialogue of two lines that lead to each other: one has a numeral of the index of the
other one for its key. -/
def crossing : Dialogue :=
  ⟨"crossing", none,
    [⟨some "+1", "Mara", "After you.", "", none, none, none, "1"⟩,
      ⟨none, "Keeper", "After you.", "", none, none, none, "+1"⟩]⟩

def crossings : Store Variables := Store.empty.insertDialogue crossing

theorem harmless_crossings : Harmless crossings.validate := by
  have nothing : crossings.validate = [] := by decide +kernel
  intro issue member
  rw [nothing] at member
  contradiction

end Sample

/-- The check reports nothing on the dialogue, and the name 1 means its second line only. -/
theorem Store.harmless_answers_crossing :
    Harmless Sample.crossings.validate ∧
    Sample.crossings.dialogues["crossing"]? = some Sample.crossing ∧
    Sample.crossing.Unambiguous "1" := by
  have harmless := Sample.harmless_crossings
  have lookup : Sample.crossings.dialogues["crossing"]? = some Sample.crossing := rfl
  refine ⟨harmless, lookup, (harmless_answers harmless lookup "1").2.2 ?_⟩
  intro i j ⟨line, here, key⟩ _
  match i with
  | 0 =>
      cases here
      contradiction
  | 1 =>
      cases here
      contradiction

/-- Both lines of the dialogue answer to the key of the first one. -/
theorem Store.harmless_answers_crossed :
    ¬ ∀ store : Store Variables, Harmless store.validate →
      ∀ (id : String) (dialogue : Dialogue), store.dialogues[id]? = some dialogue →
        ∀ name, isTerminal name = false → dialogue.Unambiguous name := by
  intro unambiguous
  have harmless := Sample.harmless_crossings
  have first : Sample.crossing.Answers "+1" 0 := ⟨_, rfl, by decide⟩
  have second : Sample.crossing.Answers "+1" 1 := ⟨_, rfl, by decide⟩
  have same := unambiguous _ harmless "crossing" _ rfl "+1" (by decide) 0 1 first second
  contradiction

end BranchingStory
