import BranchingStory.Proofs.Dialogue.InPlace

/-!
# Any number of cursors on one dialogue

A host keeps cursors on a dialogue, each under a number, and calls them in any order.  One
relation says all that a move can do with them, and what a host can rely on after any run is
read off it: every cursor stands at a line of the dialogue or past its end, a move writes to
the cursor that it calls and to no other, and a cursor past the end stays there until it is
moved to a line.
-/

namespace BranchingStory

/-- What a host does with the cursors that it keeps on a dialogue, each under a number. -/
inductive CursorMove where
  | start
  | resume (index : Nat)
  | clone (number : Nat)
  | moveTo (number index : Nat)
  | advance (number : Nat)
  deriving DecidableEq, Repr

/-- What a host gets back. -/
inductive CursorAnswer where
  /-- A cursor has been added under a number. -/
  | added (number : Nat)
  | moved
  | advanced (met : Advance)
  deriving DecidableEq, Repr

namespace CursorMove

/-- The number of the cursor that is called. -/
def called? : CursorMove → Option Nat
  | .moveTo number _ | .advance number => some number
  | .start | .resume _ | .clone _ => none

/-- The number of the cursor that has to be there. -/
def named? : CursorMove → Option Nat
  | .clone number | .moveTo number _ | .advance number => some number
  | .start | .resume _ => none

end CursorMove

/-- Adds a cursor that could be made, under the next number. -/
def addCursor (cursors : List Cursor) :
    Except StoryError Cursor → Except CursorStop CursorAnswer × List Cursor
  | .ok cursor => (.ok (.added cursors.length), cursors ++ [cursor])
  | .error error => (.error (.refused error), cursors)

/-- Calls the cursor under a number, if there is one. -/
def callCursor (cursors : List Cursor) (number : Nat) (call : CursorCall CursorAnswer) :
    Option (Except CursorStop CursorAnswer × List Cursor) :=
  cursors[number]?.map fun cursor =>
    let (answer, after) := call.run.run cursor
    (answer, cursors.set number after)

theorem Except.exists_of_map_ok {α β ε : Type} {f : α → β} {result : Except ε α} {value : β}
    (mapped : result.map f = .ok value) : ∃ origin, result = .ok origin ∧ f origin = value := by
  cases result with
  | error error => contradiction
  | ok origin => exact ⟨origin, rfl, Except.ok.inj mapped⟩

namespace Dialogue

/-- Makes a move with the cursors on a dialogue.  No move can be made with a cursor that is
not there. -/
def handle (dialogue : Dialogue) (cursors : List Cursor) :
    CursorMove → Option (Except CursorStop CursorAnswer × List Cursor)
  | .start => some (addCursor cursors (Cursor.start dialogue))
  | .resume index => some (addCursor cursors (Cursor.resume dialogue index))
  | .clone number => cursors[number]?.map fun cursor => addCursor cursors (.ok cursor)
  | .moveTo number index =>
      callCursor cursors number do
        Cursor.moveInPlace index
        return .moved
  | .advance number =>
      callCursor cursors number do
        return .advanced (← Cursor.advanceInPlace)

/-- A run of moves, each with its answer, from some cursors to others. -/
inductive Handles (dialogue : Dialogue) :
    List Cursor → List (CursorMove × Except CursorStop CursorAnswer) → List Cursor → Prop where
  | done (cursors : List Cursor) : Handles dialogue cursors [] cursors
  | move {before between after : List Cursor} {move : CursorMove}
      {answer : Except CursorStop CursorAnswer}
      {later : List (CursorMove × Except CursorStop CursorAnswer)}
      (handled : dialogue.handle before move = some (answer, between))
      (rest : Handles dialogue between later after) :
      Handles dialogue before ((move, answer) :: later) after

/-- Every cursor is on the dialogue, past its end or at one of its lines. -/
def Holds (dialogue : Dialogue) (cursors : List Cursor) : Prop :=
  ∀ cursor ∈ cursors, cursor.dialogue = dialogue ∧ cursor.InRange

/-- What a move can give, with the cursors afterwards. -/
inductive Handled (dialogue : Dialogue) (cursors : List Cursor) (move : CursorMove) :
    Except CursorStop CursorAnswer → List Cursor → Prop where
  | added {cursor : Cursor} (uncalled : move.called? = none)
      (holds : cursor.dialogue = dialogue ∧ cursor.InRange) :
      Handled dialogue cursors move (.ok (.added cursors.length)) (cursors ++ [cursor])
  | changed {number : Nat} {cursor : Cursor} {answer : CursorAnswer}
      (called : move.called? = some number)
      (holds : cursor.dialogue = dialogue ∧ cursor.InRange) :
      Handled dialogue cursors move (.ok answer) (cursors.set number cursor)
  | refused (error : StoryError) :
      Handled dialogue cursors move (.error (.refused error)) cursors

variable {dialogue : Dialogue} {cursors after : List Cursor} {move : CursorMove}
  {answer : Except CursorStop CursorAnswer} {number : Nat} {cursor : Cursor}

/-- A cursor that is written back where it stands changes nothing. -/
theorem set_of_found (found : cursors[number]? = some cursor) :
    cursors.set number cursor = cursors := by
  obtain ⟨inside, rfl⟩ := List.getElem?_eq_some_iff.1 found
  exact List.set_getElem_self inside

theorem handled_addCursor {made : Except StoryError Cursor} (uncalled : move.called? = none)
    (holds : ∀ {cursor}, made = .ok cursor → cursor.dialogue = dialogue ∧ cursor.InRange) :
    dialogue.Handled cursors move (addCursor cursors made).1 (addCursor cursors made).2 := by
  cases made with
  | ok cursor => exact .added uncalled (holds rfl)
  | error error => exact .refused error

/-- A call that gives what is known as a value writes only what it gives. -/
theorem handled_callCursor {call : CursorCall CursorAnswer}
    {result : Except StoryError (CursorAnswer × Cursor)}
    (called : move.called? = some number) (found : cursors[number]? = some cursor)
    (gives : call.run.run cursor = cursor.settle result)
    (holds : ∀ {met after}, result = .ok (met, after) →
      after.dialogue = dialogue ∧ after.InRange)
    (handled : callCursor cursors number call = some (answer, after)) :
    dialogue.Handled cursors move answer after := by
  simp only [callCursor, found, Option.map_some, gives, Option.some.injEq] at handled
  cases result with
  | ok pair =>
      cases handled
      exact .changed called (holds rfl)
  | error error =>
      rw [Cursor.settle, set_of_found found] at handled
      cases handled
      exact .refused error

theorem exists_of_callCursor {call : CursorCall CursorAnswer}
    (handled : callCursor cursors number call = some (answer, after)) :
    ∃ cursor, cursors[number]? = some cursor := by
  cases found : cursors[number]? with
  | none =>
      rw [callCursor, found] at handled
      contradiction
  | some cursor => exact ⟨cursor, rfl⟩

theorem run_moveInPlace_answer (cursor : Cursor) (index : Nat) :
    (do Cursor.moveInPlace index; return .moved : CursorCall CursorAnswer).run.run cursor =
      cursor.settle ((cursor.moveTo index).map fun after => (.moved, after)) := by
  rw [Cursor.run_bind, Cursor.run_moveInPlace]
  cases cursor.moveTo index <;> rfl

theorem run_advanceInPlace_answer (inRange : cursor.InRange) :
    (do return .advanced (← Cursor.advanceInPlace) : CursorCall CursorAnswer).run.run cursor =
      cursor.settle (cursor.advance.map fun moved => (.advanced moved.1, moved.2)) := by
  rw [Cursor.run_bind, Cursor.run_advanceInPlace inRange]
  cases cursor.advance <;> rfl

theorem handled_of_handle (holds : dialogue.Holds cursors)
    (handled : dialogue.handle cursors move = some (answer, after)) :
    dialogue.Handled cursors move answer after := by
  cases move with
  | start =>
      have adds : dialogue.Handled cursors .start _ _ :=
        handled_addCursor rfl Cursor.inRange_start
      rwa [Option.some.inj handled] at adds
  | resume index =>
      have made {cursor : Cursor} (resumed : Cursor.resume dialogue index = .ok cursor) :
          cursor.dialogue = dialogue ∧ cursor.InRange := Cursor.inRange_moveTo resumed
      have adds : dialogue.Handled cursors (.resume index) _ _ := handled_addCursor rfl made
      rwa [Option.some.inj handled] at adds
  | clone number =>
      simp only [handle, Option.map_eq_some_iff] at handled
      obtain ⟨cursor, found, same⟩ := handled
      cases same
      exact .added rfl (holds cursor (List.mem_of_getElem? found))
  | moveTo number index =>
      obtain ⟨cursor, found⟩ := exists_of_callCursor handled
      have held := holds cursor (List.mem_of_getElem? found)
      refine handled_callCursor rfl found (run_moveInPlace_answer cursor index) ?_ handled
      intro met after moved
      obtain ⟨_, result, same⟩ := Except.exists_of_map_ok moved
      cases same
      have ⟨onDialogue, inRange⟩ := Cursor.inRange_moveTo result
      exact ⟨onDialogue.trans held.1, inRange⟩
  | advance number =>
      obtain ⟨cursor, found⟩ := exists_of_callCursor handled
      have held := holds cursor (List.mem_of_getElem? found)
      refine handled_callCursor rfl found (run_advanceInPlace_answer held.2) ?_ handled
      intro met after advanced
      obtain ⟨_, result, same⟩ := Except.exists_of_map_ok advanced
      cases same
      have ⟨onDialogue, inRange⟩ := held.2.advance result
      exact ⟨onDialogue.trans held.1, inRange⟩

namespace Handled

theorem holds (moved : dialogue.Handled cursors move answer after)
    (before : dialogue.Holds cursors) : dialogue.Holds after := by
  cases moved with
  | added uncalled added =>
      intro cursor member
      rcases List.mem_append.1 member with member | member
      · exact before cursor member
      · rw [List.mem_singleton.1 member]
        exact added
  | changed called changed =>
      intro cursor member
      rcases List.mem_or_eq_of_mem_set member with member | same
      · exact before cursor member
      · rw [same]
        exact changed
  | refused error => exact before

theorem found (moved : dialogue.Handled cursors move answer after) (index : Nat) :
    answer ≠ .error (.noSuchLine index) := by
  cases moved with
  | added uncalled added => simp
  | changed called changed => simp
  | refused error => simp

theorem unchanged (moved : dialogue.Handled cursors move answer after) {stop : CursorStop}
    (stopped : answer = .error stop) : after = cursors := by
  cases moved with
  | added uncalled added => contradiction
  | changed called changed => contradiction
  | refused error => rfl

/-- The cursors that are not called stay as they are, and keep their numbers. -/
theorem others (moved : dialogue.Handled cursors move answer after)
    (there : number < cursors.length) (uncalled : move.called? ≠ some number) :
    after[number]? = cursors[number]? := by
  cases moved with
  | added _ added => exact List.getElem?_append_left there
  | changed called changed =>
      refine List.getElem?_set_ne fun same => uncalled ?_
      rw [called, same]
  | refused error => rfl

end Handled

/-! ## Runs -/

variable {log : List (CursorMove × Except CursorStop CursorAnswer)}

theorem Handles.holds (run : dialogue.Handles cursors log after)
    (before : dialogue.Holds cursors) : dialogue.Holds after := by
  induction run with
  | done cursors => exact before
  | move handled rest ih => exact ih ((handled_of_handle before handled).holds before)

theorem handle_advance_completed (found : cursors[number]? = some ⟨dialogue, .completed⟩) :
    dialogue.handle cursors (.advance number) =
      some (.error (.refused (.invalidState (.alreadyCompleted dialogue.id))), cursors) := by
  have refused := run_advanceInPlace_answer (Cursor.inRange_completed dialogue)
  simp only [handle, callCursor, found, Option.map_some, refused, Cursor.advance, Except.map,
    Cursor.settle, set_of_found found]

/-- Only a move to a line of the dialogue takes a cursor back that is past the end. -/
theorem handle_completed (before : dialogue.Holds cursors)
    (found : cursors[number]? = some ⟨dialogue, .completed⟩)
    (handled : dialogue.handle cursors move = some (answer, after))
    (unmoved : ∀ index given, (move, answer) ≠ (.moveTo number index, .ok given)) :
    after[number]? = some ⟨dialogue, .completed⟩ ∧
    (move = .advance number →
      answer = .error (.refused (.invalidState (.alreadyCompleted dialogue.id)))) := by
  have moved := handled_of_handle before handled
  have there : number < cursors.length := (List.getElem?_eq_some_iff.1 found).1
  by_cases called : move.called? = some number
  · cases move with
    | start | resume index | clone number => contradiction
    | advance called =>
        cases called
        rw [handle_advance_completed found] at handled
        cases handled
        exact ⟨found, fun _ => rfl⟩
    | moveTo other index =>
        cases called
        refine ⟨?_, CursorMove.noConfusion⟩
        cases answer with
        | ok given => exact absurd rfl (unmoved index given)
        | error stop => rw [moved.unchanged rfl, found]
  · refine ⟨by rw [moved.others there called, found], ?_⟩
    rintro rfl
    exact absurd rfl called

/-- A cursor past the end stays there, and going on with it is refused, for as long as no
move to a line of the dialogue succeeds. -/
theorem Handles.completed (run : dialogue.Handles cursors log after)
    (before : dialogue.Holds cursors) (found : cursors[number]? = some ⟨dialogue, .completed⟩)
    (unmoved : ∀ index given, (.moveTo number index, .ok given) ∉ log) :
    after[number]? = some ⟨dialogue, .completed⟩ ∧
    ∀ answer, (.advance number, answer) ∈ log →
      answer = .error (.refused (.invalidState (.alreadyCompleted dialogue.id))) := by
  induction run with
  | done cursors => exact ⟨found, fun _ => List.not_mem_nil.elim⟩
  | @move cursors between after move answer later handled rest ih =>
      have ⟨kept, refused⟩ := handle_completed before found handled
        fun index given same => unmoved index given (same ▸ List.mem_cons_self)
      have ⟨stays, others⟩ := ih ((handled_of_handle before handled).holds before) kept
        fun index given member => unmoved index given (List.mem_cons_of_mem _ member)
      refine ⟨stays, fun given member => ?_⟩
      rcases List.mem_cons.1 member with same | member
      · cases same
        exact refused rfl
      · exact others given member

/-! ## What a host can rely on -/

/-- A cursor with which no call goes wrong: it has the line at which it stands, and each call
in place gives and leaves what the cursor as a value does. -/
structure Serves (dialogue : Dialogue) (cursor : Cursor) : Prop where
  onDialogue : cursor.dialogue = dialogue
  atLine : ∀ index, cursor.state = .atLine index → ∃ inside : index < dialogue.lines.length,
    Cursor.currentInPlace.run.run cursor = (.ok (some dialogue.lines[index]), cursor)
  completed : cursor.state = .completed →
    Cursor.currentInPlace.run.run cursor = (.ok none, cursor)
  moves : ∀ index, (Cursor.moveInPlace index).run.run cursor =
    cursor.settle ((cursor.moveTo index).map fun after => ((), after))
  advances : Cursor.advanceInPlace.run.run cursor = cursor.settle cursor.advance

/-- A move that looks up no line that is missing, has changed nothing if it is refused, and
changes no cursor but the one that it calls. -/
structure Contained (cursors : List Cursor) (move : CursorMove)
    (answer : Except CursorStop CursorAnswer) (after : List Cursor) : Prop where
  found : ∀ index, answer ≠ .error (.noSuchLine index)
  unchanged : ∀ stop, answer = .error stop → after = cursors
  others : ∀ number, number < cursors.length → move.called? ≠ some number →
    after[number]? = cursors[number]?

theorem Holds.serves (holds : dialogue.Holds cursors) (member : cursor ∈ cursors) :
    dialogue.Serves cursor := by
  obtain ⟨rfl, inRange⟩ := holds cursor member
  have current := Cursor.run_currentInPlace inRange
  refine ⟨rfl, ?_, ?_, Cursor.run_moveInPlace cursor, Cursor.run_advanceInPlace inRange⟩
  · intro index atLine
    have inside := inRange index atLine
    refine ⟨inside, ?_⟩
    rw [current]
    simp only [Cursor.current?, Cursor.index?, atLine, Option.bind_some,
      List.getElem?_eq_getElem inside]
  · intro completed
    rw [current]
    simp only [Cursor.current?, Cursor.index?, completed, Option.bind_none]

theorem exists_handle (cursors : List Cursor)
    (named : ∀ number, move.named? = some number → number < cursors.length) :
    ∃ answer after, dialogue.handle cursors move = some (answer, after) := by
  cases move with
  | start | resume index => exact ⟨_, _, rfl⟩
  | clone number | moveTo number index | advance number =>
      have found := List.getElem?_eq_getElem (named number rfl)
      simp only [handle, callCursor, found, Option.map_some, Option.some.injEq]
      exact ⟨_, _, rfl⟩

/-- After any run of moves on any number of cursors every one of them stands at a line of the
dialogue or past its end, and calling it is safe.  Every move can be made with cursors that
are there; it looks up no line that is missing, has changed nothing if it is refused, and
leaves every other cursor as it is.  A cursor past the end refuses to go on until a move to a
line of the dialogue succeeds, whatever becomes of the others. -/
theorem Handles.contained (run : dialogue.Handles [] log cursors) :
    (∀ cursor ∈ cursors, dialogue.Serves cursor) ∧
    (∀ move, (∀ number, move.named? = some number → number < cursors.length) →
      ∃ answer after, dialogue.handle cursors move = some (answer, after)) ∧
    (∀ move answer after, dialogue.handle cursors move = some (answer, after) →
      Contained cursors move answer after) ∧
    ∀ number later after, cursors[number]? = some ⟨dialogue, .completed⟩ →
      dialogue.Handles cursors later after →
      (∀ index given, (.moveTo number index, .ok given) ∉ later) →
      after[number]? = some ⟨dialogue, .completed⟩ ∧
      ∀ answer, (.advance number, answer) ∈ later →
        answer = .error (.refused (.invalidState (.alreadyCompleted dialogue.id))) := by
  have holds : dialogue.Holds cursors := run.holds fun _ => List.not_mem_nil.elim
  refine ⟨fun cursor => holds.serves, fun move => exists_handle cursors, ?_, ?_⟩
  · intro move answer after handled
    have moved := handled_of_handle holds handled
    exact ⟨moved.found, fun stop => moved.unchanged, fun number => moved.others⟩
  · intro number later after found run unmoved
    exact run.completed holds found unmoved

end Dialogue

namespace Sample

/-- Two lines, one after the other. -/
def watch : Dialogue :=
  ⟨"watch", none,
    [⟨none, "Mara", "Anything?", "", none, none, none, "1"⟩,
      ⟨none, "Keeper", "Nothing.", "", none, none, none, "END"⟩]⟩

/-- A cursor at the first line is copied and goes on to the end, and is not moved beyond the
lines. -/
def watching : List (CursorMove × Except CursorStop CursorAnswer) :=
  [(.start, .ok (.added 0)), (.clone 0, .ok (.added 1)),
    (.advance 0, .ok (.advanced (.line 1 watch.lines[1]))),
    (.advance 0, .ok (.advanced .completed)),
    (.moveTo 0 2, .error (.refused (.invalidState (.lineOutOfRange 2 "watch" 2))))]

end Sample

/-- The copy is still at the first line and can go on, which leaves the first cursor past the
end; that one refuses to go on. -/
theorem Dialogue.Handles.contained_watch :
    let cursors : List Cursor := [⟨Sample.watch, .completed⟩, ⟨Sample.watch, .atLine 0⟩]
    let later : List (CursorMove × Except CursorStop CursorAnswer) :=
      [(.advance 1, .ok (.advanced (.line 1 Sample.watch.lines[1]))),
        (.advance 0, .error (.refused (.invalidState (.alreadyCompleted "watch"))))]
    Sample.watch.Handles [] Sample.watching cursors ∧
    (∀ cursor ∈ cursors, Sample.watch.Serves cursor) ∧
    ∃ after, Sample.watch.Handles cursors later after ∧
      after[0]? = some ⟨Sample.watch, .completed⟩ := by
  intro cursors later
  have run : Sample.watch.Handles [] Sample.watching cursors :=
    .move rfl <| .move rfl <| .move rfl <| .move rfl <| .move rfl <| .done _
  have more : Sample.watch.Handles cursors later
      [⟨Sample.watch, .completed⟩, ⟨Sample.watch, .atLine 1⟩] :=
    .move rfl <| .move rfl <| .done _
  obtain ⟨serves, -, -, completed⟩ := Handles.contained run
  refine ⟨run, serves, _, more, (completed 0 later _ rfl more ?_).1⟩
  simp [later]

end BranchingStory
