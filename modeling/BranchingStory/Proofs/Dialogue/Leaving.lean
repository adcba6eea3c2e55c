import Mathlib.Data.Fintype.Pigeonhole
import BranchingStory.Proofs.Dialogue.Walk

/-!
# Leaving a dialogue

A cursor that is advanced as often as its dialogue has lines, and is still inside, has come
to some line twice.  What follows a line depends on that line only, so from there on it goes
round in the same circle.  A cursor therefore leaves its dialogue within as many calls as
there are lines, or never.
-/

namespace BranchingStory

namespace Cursor

/-- What the next call gives, after a number of calls. -/
def answerAfter (cursor : Cursor) (count : Nat) : Except StoryError Advance :=
  (cursor.walk count).advance.map Prod.fst

/-- After a number of calls, the next one gives a line of the dialogue. -/
def LeadsOn (cursor : Cursor) (count : Nat) : Prop :=
  ∃ index line, cursor.answerAfter count = .ok (.line index line)

/-- After a number of calls, the next one leaves the dialogue, for its end or for something
outside. -/
def Leaves (cursor : Cursor) (count : Nat) : Prop :=
  cursor.answerAfter count = .ok .completed ∨
    ∃ target, cursor.answerAfter count = .ok (.external target)

variable {cursor : Cursor} {dialogue : Dialogue} {line : DialogueLine} {index count later : Nat}

/-! ## Single calls -/

@[simp] theorem isCompleted_atLine (dialogue : Dialogue) (index : Nat) :
    (⟨dialogue, .atLine index⟩ : Cursor).isCompleted = false := by rfl

@[simp] theorem isCompleted_completed (dialogue : Dialogue) :
    (⟨dialogue, .completed⟩ : Cursor).isCompleted = true := by rfl

/-- A cursor that has a line stands at it. -/
theorem exists_atLine (stands : cursor.current? = some line) :
    ∃ index, index < cursor.dialogue.lines.length ∧
      cursor = ⟨cursor.dialogue, .atLine index⟩ := by
  obtain ⟨dialogue, state⟩ := cursor
  cases state with
  | completed => contradiction
  | atLine index => exact ⟨index, (List.getElem?_eq_some_iff.1 stands).1, rfl⟩

/-- A call on a cursor at a line gives a line and moves the cursor there, or it leaves the
dialogue and moves the cursor past its end. -/
theorem advance_cases (inside : index < dialogue.lines.length) :
    (∃ next line, (⟨dialogue, .atLine index⟩ : Cursor).advance =
      .ok (.line next line, ⟨dialogue, .atLine next⟩)) ∨
    (⟨dialogue, .atLine index⟩ : Cursor).advance =
      .ok (.completed, ⟨dialogue, .completed⟩) ∨
    ∃ target, (⟨dialogue, .atLine index⟩ : Cursor).advance =
      .ok (.external target, ⟨dialogue, .completed⟩) := by
  cases classified : dialogue.classify dialogue.lines[index].next with
  | line next =>
      have reached := Dialogue.classify_line_lt classified
      exact .inl ⟨next, _, advance_of_line inside classified reached⟩
  | terminal => exact .inr (.inl (advance_of_terminal inside classified))
  | external target => exact .inr (.inr ⟨target, advance_of_external inside classified⟩)

/-! ## Calls one after another -/

theorem walk_succ (cursor : Cursor) (count : Nat) :
    cursor.walk (count + 1) = (cursor.walk count).goOn := by rfl

theorem walk_add (cursor : Cursor) (first second : Nat) :
    cursor.walk (first + second) = (cursor.walk first).walk second := by
  induction second with
  | zero => rfl
  | succ second ih => rw [← Nat.add_assoc, walk_succ, ih, walk_succ]

/-- After any number of calls a cursor is at a line of its dialogue or past its end. -/
theorem walk_atLine_or_completed (stands : cursor.current? = some line) (count : Nat) :
    (∃ index, index < cursor.dialogue.lines.length ∧
      cursor.walk count = ⟨cursor.dialogue, .atLine index⟩) ∨
    cursor.walk count = ⟨cursor.dialogue, .completed⟩ := by
  obtain ⟨entry, inside, atEntry⟩ := exists_atLine stands
  rw [atEntry]
  rcases walk_cases inside count with ⟨index, meets, walked⟩ | walked
  · exact .inl ⟨index, meets.inside inside, walked⟩
  · exact .inr walked

/-- A cursor that has left its dialogue is still outside after more calls. -/
theorem walk_completed (order : count ≤ later)
    (left : cursor.walk count = ⟨dialogue, .completed⟩) :
    cursor.walk later = ⟨dialogue, .completed⟩ := by
  induction later, order using Nat.le_induction with
  | base => exact left
  | succ later _ ih => rw [walk_succ, ih, goOn_completed]

/-- A cursor that is inside its dialogue was inside before every call. -/
theorem isCompleted_walk_of_le (stands : cursor.current? = some line) (order : count ≤ later)
    (within : (cursor.walk later).isCompleted = false) :
    (cursor.walk count).isCompleted = false := by
  rcases walk_atLine_or_completed stands count with ⟨index, _, walked⟩ | walked
  · rw [walked, isCompleted_atLine]
  · rw [walk_completed order walked, isCompleted_completed] at within
    contradiction

/-- Every call gives a line, leaves the dialogue, or comes after one that has left it. -/
theorem call_cases (stands : cursor.current? = some line) (count : Nat) :
    (cursor.LeadsOn count ∧ ¬cursor.Leaves count ∧
      (cursor.walk count).isCompleted = false ∧
      (cursor.walk (count + 1)).isCompleted = false) ∨
    (¬cursor.LeadsOn count ∧ cursor.Leaves count ∧
      (cursor.walk count).isCompleted = false ∧
      (cursor.walk (count + 1)).isCompleted = true) ∨
    (¬cursor.LeadsOn count ∧ ¬cursor.Leaves count ∧
      (cursor.walk count).isCompleted = true ∧
      (cursor.walk (count + 1)).isCompleted = true) := by
  simp only [LeadsOn, Leaves, answerAfter, walk_succ]
  rcases walk_atLine_or_completed stands count with ⟨index, inside, walked⟩ | walked
  · rw [walked, goOn]
    rcases advance_cases inside with ⟨next, line, led⟩ | left | ⟨target, left⟩
    · simp [led, Except.map]
    · simp [left, Except.map]
    · simp [left, Except.map]
  · rw [walked, goOn_completed]
    simp [advance, Except.map]

theorem leadsOn_iff (stands : cursor.current? = some line) :
    cursor.LeadsOn count ↔ (cursor.walk (count + 1)).isCompleted = false := by
  rcases call_cases stands count with ⟨leads, _, _, inside⟩ | ⟨idle, _, _, outside⟩ |
    ⟨idle, _, _, outside⟩
  · simp only [leads, inside]
  · simp only [idle, outside, Bool.true_eq_false]
  · simp only [idle, outside, Bool.true_eq_false]

theorem leaves_iff (stands : cursor.current? = some line) :
    cursor.Leaves count ↔ (cursor.walk count).isCompleted = false ∧
      (cursor.walk (count + 1)).isCompleted = true := by
  rcases call_cases stands count with ⟨_, stays, _, inside⟩ | ⟨_, leaves, before, outside⟩ |
    ⟨_, stays, before, _⟩
  · simp only [stays, inside, Bool.false_eq_true, and_false]
  · simp only [leaves, before, outside, and_self]
  · simp only [stays, before, Bool.true_eq_false, false_and]

/-- A cursor that is past the end of its dialogue has left it with one of the calls. -/
theorem exists_leaves (stands : cursor.current? = some line)
    (left : (cursor.walk count).isCompleted = true) : ∃ leaving, cursor.Leaves leaving := by
  induction count with
  | zero =>
      obtain ⟨index, _, atLine⟩ := exists_atLine stands
      rw [walk, atLine, isCompleted_atLine] at left
      contradiction
  | succ count ih =>
      cases before : (cursor.walk count).isCompleted with
      | true => exact ih before
      | false => exact ⟨count, (leaves_iff stands).2 ⟨before, left⟩⟩

/-! ## Circles -/

/-- A cursor that is still inside after as many calls as there are lines has come to some line
twice. -/
theorem exists_walk_eq (stands : cursor.current? = some line)
    (within : (cursor.walk cursor.dialogue.lines.length).isCompleted = false) :
    ∃ first second, first < second ∧ second ≤ cursor.dialogue.lines.length ∧
      cursor.walk first = cursor.walk second := by
  have visits (count : Fin (cursor.dialogue.lines.length + 1)) :
      ∃ index : Fin cursor.dialogue.lines.length,
        cursor.walk count = ⟨cursor.dialogue, .atLine index⟩ := by
    have before := isCompleted_walk_of_le stands (Nat.le_of_lt_succ count.isLt) within
    rcases walk_atLine_or_completed stands count with ⟨index, inside, walked⟩ | walked
    · exact ⟨⟨index, inside⟩, walked⟩
    · rw [walked, isCompleted_completed] at before
      contradiction
  choose visited visit using visits
  have fewer : Fintype.card (Fin cursor.dialogue.lines.length) <
      Fintype.card (Fin (cursor.dialogue.lines.length + 1)) := by
    simp only [Fintype.card_fin, Nat.lt_succ_self]
  obtain ⟨first, second, different, same⟩ :=
    Fintype.exists_ne_map_eq_of_card_lt visited fewer
  have meet : cursor.walk first = cursor.walk second := by
    rw [visit, visit, same]
  rcases Nat.lt_or_gt_of_ne (Fin.val_ne_of_ne different) with order | order
  · exact ⟨first, second, order, Nat.le_of_lt_succ second.isLt, meet⟩
  · exact ⟨second, first, order, Nat.le_of_lt_succ first.isLt, meet.symm⟩

/-- A cursor that is still inside after as many calls as there are lines stays inside. -/
theorem isCompleted_walk_of_length (stands : cursor.current? = some line)
    (within : (cursor.walk cursor.dialogue.lines.length).isCompleted = false) (count : Nat) :
    (cursor.walk count).isCompleted = false := by
  obtain ⟨first, second, order, last, meet⟩ := exists_walk_eq stands within
  -- Behind the second visit the cursor is where it was one round before.
  induction count using Nat.strong_induction_on with
  | _ count ih =>
      by_cases early : count ≤ cursor.dialogue.lines.length
      · exact isCompleted_walk_of_le stands early within
      · obtain ⟨more, rfl⟩ := Nat.exists_eq_add_of_le (show second ≤ count by omega)
        rw [walk_add, ← meet, ← walk_add]
        exact ih (first + more) (by omega)

/-- A cursor at a line leaves its dialogue within as many calls as there are lines, or never.
If so many calls in a row each give a line, then so does every later one, and a call that
leaves comes after fewer calls than that.  So whether a cursor ever leaves is known from where
it is after so many calls. -/
theorem leaves_within_length (stands : cursor.current? = some line) :
    ((∀ count < cursor.dialogue.lines.length, cursor.LeadsOn count) →
      ∀ count, cursor.LeadsOn count) ∧
    (∀ count, cursor.Leaves count → count < cursor.dialogue.lines.length) ∧
    ((∃ count, cursor.Leaves count) ↔
      (cursor.walk cursor.dialogue.lines.length).isCompleted = true) := by
  refine ⟨?_, ?_, ?_⟩
  · intro leads count
    obtain ⟨index, inside, _⟩ := exists_atLine stands
    have within := (leadsOn_iff stands).1 (leads (cursor.dialogue.lines.length - 1) (by omega))
    rw [Nat.sub_add_cancel (Nat.one_le_of_lt inside)] at within
    exact (leadsOn_iff stands).2 (isCompleted_walk_of_length stands within (count + 1))
  · intro count leaves
    obtain ⟨within, left⟩ := (leaves_iff stands).1 leaves
    apply Nat.lt_of_not_le
    intro late
    have forever := isCompleted_walk_of_length stands
      (isCompleted_walk_of_le stands late within) (count + 1)
    rw [left] at forever
    contradiction
  · constructor
    · rintro ⟨count, leaves⟩
      obtain ⟨_, left⟩ := (leaves_iff stands).1 leaves
      cases within : (cursor.walk cursor.dialogue.lines.length).isCompleted with
      | true => rfl
      | false =>
          rw [isCompleted_walk_of_length stands within] at left
          contradiction
    · intro left
      exact exists_leaves stands left

end Cursor

namespace Sample

/-- Three lines that are said in the order first, last, middle. -/
def ladder : Dialogue :=
  ⟨"ladder", none,
    [⟨some "foot", "Mara", "Up there.", "", none, none, none, "top"⟩,
      ⟨some "landing", "Keeper", "Half of it.", "", none, none, none, "harbor"⟩,
      ⟨some "top", "Mara", "Too far.", "", none, none, none, "landing"⟩]⟩

/-- Two lines that are said in turn, and one that is never said. -/
def rounds : Dialogue :=
  ⟨"rounds", none,
    [⟨none, "Mara", "Once more.", "", none, none, none, "2"⟩,
      ⟨none, "Keeper", "Enough.", "", none, none, none, "END"⟩,
      ⟨none, "Mara", "And again.", "", none, none, none, "0"⟩]⟩

end Sample

/-- On the ladder it takes all three calls to leave, and the rounds are never left. -/
theorem Cursor.leaves_within_length_ladder :
    let climbing : Cursor := ⟨Sample.ladder, .atLine 0⟩
    let circling : Cursor := ⟨Sample.rounds, .atLine 0⟩
    (climbing.current? = some Sample.ladder.lines[0] ∧ climbing.Leaves 2 ∧
      2 < climbing.dialogue.lines.length) ∧
    circling.current? = some Sample.rounds.lines[0] ∧
    (∀ count < circling.dialogue.lines.length, circling.LeadsOn count) ∧
    ∀ count, circling.LeadsOn count := by
  intro climbing circling
  have climbs : climbing.current? = some Sample.ladder.lines[0] := rfl
  have circles : circling.current? = some Sample.rounds.lines[0] := rfl
  have leaves : climbing.Leaves 2 := .inr ⟨"harbor", rfl⟩
  have leads : ∀ count < circling.dialogue.lines.length, circling.LeadsOn count
    | 0, _ => ⟨2, _, rfl⟩
    | 1, _ => ⟨0, _, rfl⟩
    | 2, _ => ⟨2, _, rfl⟩
  exact ⟨⟨climbs, leaves, (leaves_within_length climbs).2.1 2 leaves⟩, circles, leads,
    (leaves_within_length circles).1 leads⟩

end BranchingStory
