import BranchingStory.Dialogue.Basic
import BranchingStory.StoryError

/-!
# Cursors

A cursor is a position in a dialogue: at one of its lines, or past its end. Cursors
are values, so moving one leaves all others where they are. `InRange` is what every
cursor satisfies that was started or positioned and then advanced.
-/

namespace BranchingStory

/-- Where a cursor stands. -/
inductive CursorState where
  | atLine (index : Nat)
  | completed
  deriving DecidableEq, Repr

/-- A position in a dialogue. -/
structure Cursor where
  dialogue : Dialogue
  state : CursorState
  deriving DecidableEq, Repr

/-- What follows the line that a cursor stood at. -/
inductive Advance where
  | line (index : Nat) (line : DialogueLine)
  | completed
  | external (target : String)
  deriving DecidableEq, Repr

namespace Cursor

/-- A cursor at a line has that line. -/
def InRange (cursor : Cursor) : Prop :=
  ∀ index, cursor.state = .atLine index → index < cursor.dialogue.lines.length

/-- A cursor at the line that a dialogue begins with. -/
def start (dialogue : Dialogue) : Except StoryError Cursor :=
  match dialogue.entryIndex? with
  | some index => .ok ⟨dialogue, .atLine index⟩
  | none => .error (.invalidState (.noEntryLine dialogue.id))

/-- Moves a cursor to a line of its dialogue. -/
def moveTo (cursor : Cursor) (index : Nat) : Except StoryError Cursor :=
  if index < cursor.dialogue.lines.length then
    .ok { cursor with state := .atLine index }
  else
    .error (.invalidState
      (.lineOutOfRange index cursor.dialogue.id cursor.dialogue.lines.length))

/-- A cursor at a line that was noted before; the lines before it are not replayed. -/
def resume (dialogue : Dialogue) (index : Nat) : Except StoryError Cursor :=
  moveTo ⟨dialogue, .completed⟩ index

/-- The index of the line that the cursor stands at. -/
def index? (cursor : Cursor) : Option Nat :=
  match cursor.state with
  | .atLine index => some index
  | .completed => none

/-- The line that the cursor stands at. -/
def current? (cursor : Cursor) : Option DialogueLine :=
  cursor.index?.bind (cursor.dialogue.lines[·]?)

def isCompleted (cursor : Cursor) : Bool := cursor.state == .completed

/-- Follows the current line to what comes next. The result is what was met and the
cursor afterwards; a completed cursor cannot go on, and one beyond the lines has no
line to follow. -/
def advance (cursor : Cursor) : Except StoryError (Advance × Cursor) :=
  let dialogue := cursor.dialogue
  let outOfRange (index : Nat) : StoryError :=
    .invalidState (.lineOutOfRange index dialogue.id dialogue.lines.length)
  match cursor.state with
  | .completed => .error (.invalidState (.alreadyCompleted dialogue.id))
  | .atLine index =>
      match dialogue.lines[index]? with
      | none => .error (outOfRange index)
      | some line =>
          match dialogue.classify line.next with
          | .terminal => .ok (.completed, { cursor with state := .completed })
          | .external target => .ok (.external target, { cursor with state := .completed })
          | .line next =>
              match dialogue.lines[next]? with
              | none => .error (outOfRange next)
              | some line => .ok (.line next line, { cursor with state := .atLine next })

end Cursor

end BranchingStory
