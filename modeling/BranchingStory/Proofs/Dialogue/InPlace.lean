import BranchingStory.Proofs.Dialogue.Cursor

/-!
# Cursors that are changed in place

A call changes its cursor in place: what it has written stays written when it stops, and it
looks lines up without asking first whether they are there.  `CursorCall` says this step by
step.  Of a cursor at a line of its dialogue or past its end none of it can be seen: no
look-up fails, and a call checks before it writes, so one that is refused has changed
nothing.  It gives and leaves what the cursor as a value does.
-/

namespace BranchingStory

/-- Why a call stops before it has an answer. -/
inductive CursorStop where
  | refused (error : StoryError)
  /-- A line is looked up that the dialogue does not have. -/
  | noSuchLine (index : Nat)
  deriving DecidableEq, Repr

/-- A call that changes its cursor in place.  What it has written stays when it stops. -/
abbrev CursorCall (α : Type) := ExceptT CursorStop (StateM Cursor) α

namespace Cursor

/-! ## Calls in place -/

/-- Looks up a line that has to be there. -/
def lineAt (index : Nat) : CursorCall DialogueLine := do
  match (← get).dialogue.lines[index]? with
  | some line => return line
  | none => throw (.noSuchLine index)

/-- Writes where the cursor stands. -/
def standAt (state : CursorState) : CursorCall Unit :=
  modify fun cursor => { cursor with state }

/-- Looks up the line at which the cursor stands, if it stands at one. -/
def currentInPlace : CursorCall (Option DialogueLine) := do
  match (← get).state with
  | .atLine index => return some (← lineAt index)
  | .completed => return none

/-- Moves the cursor to a line of its dialogue. -/
def moveInPlace (index : Nat) : CursorCall Unit := do
  let dialogue := (← get).dialogue
  if dialogue.lines.length ≤ index then
    throw (.refused (.invalidState
      (.lineOutOfRange index dialogue.id dialogue.lines.length)))
  standAt (.atLine index)

/-- Follows the current line to what comes next.  The line that is met is looked up after
the cursor was moved there. -/
def advanceInPlace : CursorCall Advance := do
  let cursor ← get
  match cursor.state with
  | .completed => throw (.refused (.invalidState (.alreadyCompleted cursor.dialogue.id)))
  | .atLine index =>
      match cursor.dialogue.classify (← lineAt index).next with
      | .line next =>
          standAt (.atLine next)
          return .line next (← lineAt next)
      | .terminal =>
          standAt .completed
          return .completed
      | .external target =>
          standAt .completed
          return .external target

/-- A result with the cursor afterwards, as a call in place gives it.  One that is refused
leaves the cursor as it is. -/
def settle {α : Type} (cursor : Cursor) :
    Except StoryError (α × Cursor) → Except CursorStop α × Cursor
  | .ok (answer, after) => (.ok answer, after)
  | .error error => (.error (.refused error), cursor)

variable {α β : Type} {cursor : Cursor} {dialogue : Dialogue} {index : Nat}

/-! ## What each part of a call gives and leaves -/

theorem run_bind (call : CursorCall α) (next : α → CursorCall β) (cursor : Cursor) :
    (call >>= next).run.run cursor =
      match call.run.run cursor with
      | (.ok answer, after) => (next answer).run.run after
      | (.error stop, after) => (.error stop, after) := by
  show (match call.run.run cursor with
    | (answer, after) => (ExceptT.bindCont next answer).run after) = _
  rcases call.run.run cursor with ⟨answer | stop, after⟩ <;> rfl

theorem run_pure (answer : α) (cursor : Cursor) :
    (pure answer : CursorCall α).run.run cursor = (.ok answer, cursor) := rfl

theorem run_get (cursor : Cursor) :
    (get : CursorCall Cursor).run.run cursor = (.ok cursor, cursor) := rfl

theorem run_throw (stop : CursorStop) (cursor : Cursor) :
    (throw stop : CursorCall α).run.run cursor = (.error stop, cursor) := rfl

theorem run_standAt (state : CursorState) (cursor : Cursor) :
    (standAt state).run.run cursor = (.ok (), { cursor with state }) := rfl

theorem run_lineAt (inside : index < cursor.dialogue.lines.length) :
    (lineAt index).run.run cursor = (.ok cursor.dialogue.lines[index], cursor) := by
  simp only [lineAt, run_bind, run_get, List.getElem?_eq_getElem inside, run_pure]

/-! ## Calls on one cursor -/

theorem inRange_completed (dialogue : Dialogue) :
    (⟨dialogue, .completed⟩ : Cursor).InRange := by
  intro index atLine
  contradiction

theorem inRange_atLine (inside : index < dialogue.lines.length) :
    (⟨dialogue, .atLine index⟩ : Cursor).InRange := by
  intro _ atLine
  cases atLine
  exact inside

/-- A cursor that is in range is past the end or at a line that is there. -/
theorem InRange.cases (inRange : cursor.InRange) :
    cursor = ⟨cursor.dialogue, .completed⟩ ∨
    ∃ index, index < cursor.dialogue.lines.length ∧
      cursor = ⟨cursor.dialogue, .atLine index⟩ := by
  obtain ⟨dialogue, state⟩ := cursor
  cases state with
  | completed => exact .inl rfl
  | atLine index => exact .inr ⟨index, inRange index rfl, rfl⟩

theorem run_currentInPlace (inRange : cursor.InRange) :
    currentInPlace.run.run cursor = (.ok cursor.current?, cursor) := by
  rcases inRange.cases with same | ⟨index, inside, same⟩
  · rw [same]
    rfl
  · rw [same]
    simp only [currentInPlace, current?, index?, run_bind, run_get, run_lineAt, inside, run_pure,
      Option.bind_some, List.getElem?_eq_getElem inside]

theorem run_moveInPlace (cursor : Cursor) (index : Nat) :
    (moveInPlace index).run.run cursor =
      cursor.settle ((cursor.moveTo index).map fun after => ((), after)) := by
  by_cases inside : index < cursor.dialogue.lines.length
  · have within : ¬cursor.dialogue.lines.length ≤ index := Nat.not_le_of_lt inside
    simp only [moveInPlace, run_bind, run_get, if_neg within, moveTo, if_pos inside]
    rfl
  · have beyond : cursor.dialogue.lines.length ≤ index := Nat.le_of_not_lt inside
    simp only [moveInPlace, run_bind, run_get, if_pos beyond, run_throw, moveTo, if_neg inside]
    rfl

/-- The line that a cursor is moved to is there to be looked up. -/
theorem run_advanceInPlace (inRange : cursor.InRange) :
    advanceInPlace.run.run cursor = cursor.settle cursor.advance := by
  rcases inRange.cases with same | ⟨index, inside, same⟩
  · rw [same]
    rfl
  · rw [same]
    generalize cursor.dialogue = dialogue at inside
    cases classified : dialogue.classify dialogue.lines[index].next with
    | terminal =>
        rw [advance_of_terminal inside classified]
        simp only [advanceInPlace, run_bind, run_get, run_lineAt, inside, classified,
          run_standAt, run_pure, settle]
    | external target =>
        rw [advance_of_external inside classified]
        simp only [advanceInPlace, run_bind, run_get, run_lineAt, inside, classified,
          run_standAt, run_pure, settle]
    | line next =>
        have reached := Dialogue.classify_line_lt classified
        rw [advance_of_line inside classified reached]
        simp only [advanceInPlace, run_bind, run_get, run_lineAt, inside, classified,
          run_standAt, reached, run_pure, settle]

/-- A cursor that was advanced is in the same dialogue, past its end or at one of its
lines. -/
theorem InRange.advance (inRange : cursor.InRange) {met : Advance} {after : Cursor}
    (advanced : cursor.advance = .ok (met, after)) :
    after.dialogue = cursor.dialogue ∧ after.InRange := by
  rcases inRange.cases with same | ⟨index, inside, same⟩
  · rw [same] at advanced
    contradiction
  · rw [same] at advanced ⊢
    generalize cursor.dialogue = dialogue at inside advanced
    cases classified : dialogue.classify dialogue.lines[index].next with
    | terminal =>
        rw [advance_of_terminal inside classified] at advanced
        cases advanced
        exact ⟨rfl, inRange_completed dialogue⟩
    | external target =>
        rw [advance_of_external inside classified] at advanced
        cases advanced
        exact ⟨rfl, inRange_completed dialogue⟩
    | line next =>
        have reached := Dialogue.classify_line_lt classified
        rw [advance_of_line inside classified reached] at advanced
        cases advanced
        exact ⟨rfl, inRange_atLine reached⟩

theorem inRange_moveTo {after : Cursor} (moved : cursor.moveTo index = .ok after) :
    after.dialogue = cursor.dialogue ∧ after.InRange := by
  by_cases inside : index < cursor.dialogue.lines.length
  · rw [moveTo, if_pos inside] at moved
    cases moved
    exact ⟨rfl, inRange_atLine inside⟩
  · rw [moveTo, if_neg inside] at moved
    contradiction

theorem inRange_start {after : Cursor} (started : start dialogue = .ok after) :
    after.dialogue = dialogue ∧ after.InRange := by
  cases entry : dialogue.entryIndex? with
  | none =>
      rw [start_of_no_entry entry] at started
      contradiction
  | some index =>
      rw [start_of_entry entry] at started
      cases started
      exact ⟨rfl, inRange_atLine (Dialogue.entryIndex?_lt entry)⟩

end Cursor

end BranchingStory
