import BranchingStory.Session.Basic

/-!
# Cursors within their dialogue

A name that is classified as a line means a line of the dialogue, so a cursor at a line
only ever moves to another line of the same dialogue or leaves it.  The equations below
say what each operation on such a cursor gives; none of them can fail.
-/

namespace BranchingStory

namespace Dialogue

variable {dialogue : Dialogue} {name : String} {index : Nat}

theorem classify_line_lt (classified : dialogue.classify name = .line index) :
    index < dialogue.lines.length := by
  unfold classify at classified
  split at classified
  · contradiction
  · split at classified
    · next found =>
        cases classified
        exact lineIndex?_lt found
    · contradiction

end Dialogue

namespace Cursor

variable {dialogue : Dialogue} {index : Nat}

theorem start_of_entry (entry : dialogue.entryIndex? = some index) :
    start dialogue = .ok ⟨dialogue, .atLine index⟩ := by
  simp only [start, entry]

theorem start_of_no_entry (missing : dialogue.entryIndex? = none) :
    start dialogue = .error (.invalidState (.noEntryLine dialogue.id)) := by
  simp only [start, missing]

theorem resume_of_lt (inside : index < dialogue.lines.length) :
    resume dialogue index = .ok ⟨dialogue, .atLine index⟩ := by
  simp only [resume, moveTo, if_pos inside]

theorem resume_of_not_lt (outside : ¬index < dialogue.lines.length) :
    resume dialogue index =
      .error (.invalidState (.lineOutOfRange index dialogue.id dialogue.lines.length)) := by
  simp only [resume, moveTo, if_neg outside]

/-- A cursor at a line shows that line. -/
theorem step_atLine (inside : index < dialogue.lines.length) :
    (⟨dialogue, .atLine index⟩ : Cursor).step =
      .ok (.line dialogue.id index dialogue.lines[index]) := by
  simp [step, current?, index?, inside]

theorem advance_of_terminal (inside : index < dialogue.lines.length)
    (classified : dialogue.classify dialogue.lines[index].next = .terminal) :
    (⟨dialogue, .atLine index⟩ : Cursor).advance =
      .ok (.completed, ⟨dialogue, .completed⟩) := by
  simp [advance, inside, classified]

theorem advance_of_external (inside : index < dialogue.lines.length) {target : String}
    (classified : dialogue.classify dialogue.lines[index].next = .external target) :
    (⟨dialogue, .atLine index⟩ : Cursor).advance =
      .ok (.external target, ⟨dialogue, .completed⟩) := by
  simp [advance, inside, classified]

theorem advance_of_line (inside : index < dialogue.lines.length) {next : Nat}
    (classified : dialogue.classify dialogue.lines[index].next = .line next)
    (reached : next < dialogue.lines.length) :
    (⟨dialogue, .atLine index⟩ : Cursor).advance =
      .ok (.line next dialogue.lines[next], ⟨dialogue, .atLine next⟩) := by
  simp [advance, inside, classified, reached]

end Cursor

end BranchingStory
