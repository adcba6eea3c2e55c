import BranchingStory.Proofs.Dialogue.Cursor
import BranchingStory.Validation.Reachability

/-!
# Walks through a dialogue

A cursor that is advanced again and again follows the lines, from each to the one it leads
to, until it leaves the dialogue and stays outside.  `Dialogue.Meets` says which lines come
one after another without counting the calls.  A cursor comes to exactly these lines,
whether or not they lead in a circle.
-/

namespace BranchingStory

open Validation

/-- The lines that follow a line, with that line itself. -/
inductive Dialogue.Meets (dialogue : Dialogue) (entry : Nat) : Nat → Prop where
  | here : Meets dialogue entry entry
  | next {index next : Nat} (before : Meets dialogue entry index)
      (leads : Sweep.successor? dialogue index = some next) : Meets dialogue entry next

namespace Validation.Sweep

variable {dialogue : Dialogue} {index next : Nat}

theorem successor?_eq_some_iff (inside : index < dialogue.lines.length) :
    successor? dialogue index = some next ↔
      dialogue.classify dialogue.lines[index].next = .line next := by
  simp only [successor?, List.getElem?_eq_getElem inside]
  cases dialogue.classify dialogue.lines[index].next <;> simp

/-- A line leads to lines of its dialogue only. -/
theorem successor?_lt (leads : successor? dialogue index = some next) :
    next < dialogue.lines.length := by
  unfold successor? at leads
  split at leads
  · contradiction
  · split at leads
    · next classified =>
        cases leads
        exact Dialogue.classify_line_lt classified
    · contradiction

end Validation.Sweep

theorem Dialogue.Meets.inside {dialogue : Dialogue} {entry index : Nat}
    (meets : dialogue.Meets entry index) (inside : entry < dialogue.lines.length) :
    index < dialogue.lines.length := by
  cases meets with
  | here => exact inside
  | next before leads => exact Sweep.successor?_lt leads

namespace Cursor

/-- The cursor after it was advanced.  One that is refused stays where it is. -/
def goOn (cursor : Cursor) : Cursor :=
  match cursor.advance with
  | .ok (_, next) => next
  | .error _ => cursor

/-- The cursor after it was advanced a number of times. -/
def walk (cursor : Cursor) : Nat → Cursor
  | 0 => cursor
  | count + 1 => (cursor.walk count).goOn

variable {dialogue : Dialogue} {entry index : Nat}

@[simp] theorem index?_atLine (dialogue : Dialogue) (index : Nat) :
    (⟨dialogue, .atLine index⟩ : Cursor).index? = some index := by rfl

@[simp] theorem index?_completed (dialogue : Dialogue) :
    (⟨dialogue, .completed⟩ : Cursor).index? = none := by rfl

/-- Outside the dialogue a cursor stays. -/
theorem goOn_completed (dialogue : Dialogue) :
    (⟨dialogue, .completed⟩ : Cursor).goOn = ⟨dialogue, .completed⟩ := by rfl

/-- A cursor goes to the line that its line leads to. -/
theorem goOn_of_leads (inside : index < dialogue.lines.length) {next : Nat}
    (leads : Sweep.successor? dialogue index = some next) :
    (⟨dialogue, .atLine index⟩ : Cursor).goOn = ⟨dialogue, .atLine next⟩ := by
  have classified := (Sweep.successor?_eq_some_iff inside).1 leads
  simp only [goOn, advance_of_line inside classified (Dialogue.classify_line_lt classified)]

/-- At a line that leads to no other a cursor leaves the dialogue. -/
theorem goOn_of_leaves (inside : index < dialogue.lines.length)
    (leaves : Sweep.successor? dialogue index = none) :
    (⟨dialogue, .atLine index⟩ : Cursor).goOn = ⟨dialogue, .completed⟩ := by
  cases classified : dialogue.classify dialogue.lines[index].next with
  | terminal => simp only [goOn, advance_of_terminal inside classified]
  | external target => simp only [goOn, advance_of_external inside classified]
  | line next =>
      rw [(Sweep.successor?_eq_some_iff inside).2 classified] at leaves
      contradiction

/-- A walk stays in its dialogue and comes to lines that follow the first one only. -/
theorem walk_cases (inside : entry < dialogue.lines.length) (count : Nat) :
    (∃ index, dialogue.Meets entry index ∧
      (⟨dialogue, .atLine entry⟩ : Cursor).walk count = ⟨dialogue, .atLine index⟩) ∨
    (⟨dialogue, .atLine entry⟩ : Cursor).walk count = ⟨dialogue, .completed⟩ := by
  induction count with
  | zero => exact .inl ⟨entry, .here, rfl⟩
  | succ count ih =>
      rcases ih with ⟨index, meets, walked⟩ | walked
      · cases leads : Sweep.successor? dialogue index with
        | none =>
            right
            rw [walk, walked, goOn_of_leaves (meets.inside inside) leads]
        | some next =>
            left
            refine ⟨next, meets.next leads, ?_⟩
            rw [walk, walked, goOn_of_leads (meets.inside inside) leads]
      · right
        rw [walk, walked, goOn_completed]

/-- Every line that follows the first one is come to. -/
theorem exists_walk (inside : entry < dialogue.lines.length)
    (meets : dialogue.Meets entry index) :
    ∃ count, (⟨dialogue, .atLine entry⟩ : Cursor).walk count = ⟨dialogue, .atLine index⟩ := by
  induction meets with
  | here => exact ⟨0, rfl⟩
  | @next index next before leads ih =>
      obtain ⟨count, walked⟩ := ih
      refine ⟨count + 1, ?_⟩
      rw [walk, walked, goOn_of_leads (before.inside inside) leads]

/-- A cursor comes to exactly the lines that follow the one where it began. -/
theorem exists_walk_iff (inside : entry < dialogue.lines.length) :
    (∃ count, ((⟨dialogue, .atLine entry⟩ : Cursor).walk count).index? = some index) ↔
      dialogue.Meets entry index := by
  constructor
  · rintro ⟨count, place⟩
    rcases walk_cases inside count with ⟨met, meets, walked⟩ | walked
    · rw [walked, index?_atLine] at place
      cases place
      exact meets
    · rw [walked, index?_completed] at place
      contradiction
  · intro meets
    obtain ⟨count, walked⟩ := exists_walk inside meets
    exact ⟨count, by rw [walked, index?_atLine]⟩

end Cursor

end BranchingStory
