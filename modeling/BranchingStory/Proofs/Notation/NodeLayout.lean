import BranchingStory.Proofs.Notation.Layout
import BranchingStory.Proofs.Notation.Story

/-!
# Lines, bodies and events laid out otherwise

The fields of a line, an option, a body or an event may stand in any order, and those that
hold a default may be left out; the lines of a body are laid out each by itself.  What may be
left out is listed for each record apart from its shape, and each of these defaults could be
written as well.  The text is read as the same value, but where a condition is nested deeper
than reading goes, every layout of its event is refused.
-/

namespace BranchingStory

open Notation

variable {levels : Nat} {written : Datum}

/-! ## Lines and options -/

namespace DialogueLine

/-- What may be left out of a line. -/
def defaults : List (String × Datum) :=
  [("key", toDatum (none : Option String)), ("effect", toDatum ""),
    ("image", toDatum (none : Option String)), ("sound", toDatum (none : Option String)),
    ("cutscene", toDatum (none : Option String)), ("next", toDatum "")]

/-- The ways to lay out a line. -/
def LaidOut (line : DialogueLine) (written : Datum) : Prop :=
  ∃ shown, Arranged defaults (toDatum line).fields shown ∧ written = .record shown

theorem defaults_stand (around : Shape) :
    ∀ default ∈ defaults,
      Stands (levels + 1) around (Notated.shape DialogueLine).fields default := by
  simp only [defaults, List.forall_mem_cons]
  exact ⟨⟨_, rfl, rfl, reads_absent⟩, ⟨_, rfl, rfl, reads_text ""⟩, ⟨_, rfl, rfl, reads_absent⟩,
    ⟨_, rfl, rfl, reads_absent⟩, ⟨_, rfl, rfl, reads_absent⟩, ⟨_, rfl, rfl, reads_text ""⟩,
    fun _ member => absurd member List.not_mem_nil⟩

theorem reads {line : DialogueLine} (laid : line.LaidOut written) (around : Shape) :
    Reads (levels + 3) around (Notated.shape DialogueLine) ⟨written, toDatum line, true⟩ := by
  obtain ⟨shown, arranged, rfl⟩ := laid
  have fits : Fits anyNumber (levels + 3) around (Notated.shape DialogueLine) (toDatum line) :=
    (line.said.mono (Nat.le_add_left 3 levels)).fits around
  exact fits.reads_arranged (defaults_stand around) arranged

end DialogueLine

namespace ChoiceLine

/-- What may be left out of an option. -/
def defaults : List (String × Datum) :=
  [("classification", toDatum (Classification.mk "")), ("tutorial_skip", toDatum (-1 : Int32)),
    ("min_responsibility", toDatum (0 : Int64))]

/-- The ways to lay out an option. -/
def LaidOut (line : ChoiceLine) (written : Datum) : Prop :=
  ∃ shown, Arranged defaults (toDatum line).fields shown ∧ written = .record shown

theorem defaults_stand (around : Shape) :
    ∀ default ∈ defaults, Stands levels around (Notated.shape ChoiceLine).fields default := by
  have skip : Says anyNumber levels (-1 : Int32) (toDatum (-1 : Int32)) := said_int32 _
  have gate : Says anyNumber levels (0 : Int64) (toDatum (0 : Int64)) := said_int64 _
  simp only [defaults, List.forall_mem_cons]
  exact ⟨⟨_, rfl, rfl, reads_text ""⟩, ⟨_, rfl, rfl, skip.reads around⟩,
    ⟨_, rfl, rfl, gate.reads around⟩, fun _ member => absurd member List.not_mem_nil⟩

theorem reads {line : ChoiceLine} (laid : line.LaidOut written) (around : Shape) :
    Reads (levels + 2) around (Notated.shape ChoiceLine) ⟨written, toDatum line, true⟩ := by
  obtain ⟨shown, arranged, rfl⟩ := laid
  have fits : Fits anyNumber (levels + 2) around (Notated.shape ChoiceLine) (toDatum line) :=
    (line.said.mono (Nat.le_add_left 2 levels)).fits around
  exact fits.reads_arranged (defaults_stand around) arranged

end ChoiceLine

/-! ## Bodies -/

namespace DialogueBody

/-- What may be left out of the body of a dialogue. -/
def defaults : List (String × Datum) := [("entry", toDatum (none : Option String))]

/-- The ways to lay out the body of a dialogue, with its lines. -/
def LaidOut (body : DialogueBody) (written : Datum) : Prop :=
  ∃ lines shown, List.Forall₂ DialogueLine.LaidOut body.lines lines ∧
    Arranged defaults [("entry", toDatum body.entry), ("lines", .list lines)] shown ∧
    written = .record shown

theorem defaults_stand (around : Shape) :
    ∀ default ∈ defaults,
      Stands (levels + 5) around (Notated.shape DialogueBody).fields default := by
  simp only [defaults, List.forall_mem_cons]
  exact ⟨⟨_, rfl, rfl, reads_absent⟩, fun _ member => absurd member List.not_mem_nil⟩

theorem reads {body : DialogueBody} (laid : body.LaidOut written) (around : Shape) :
    Reads (levels + 7) around (Notated.shape DialogueBody) ⟨written, toDatum body, true⟩ := by
  obtain ⟨lines, shown, eachLaid, arranged, rfl⟩ := laid
  have entry : Says anyNumber (levels + 5) body.entry (toDatum body.entry) :=
    said_optionalText _
  have linesRead : Reads (levels + 5) around (Notated.shape (List DialogueLine))
      ⟨.list lines, toDatum body.lines, true⟩ :=
    reads_laidOut_list (fun laid => DialogueLine.reads laid around) eachLaid
  have each : EachReads (levels + 5) around (Notated.shape DialogueBody).fields
      [("entry", ⟨toDatum body.entry, toDatum body.entry, true⟩),
        ("lines", ⟨.list lines, toDatum body.lines, true⟩)] :=
    .cons (entry.reads around) (.cons linesRead .nil)
  exact Reads.record (by decide) (by decide) each (defaults_stand around) arranged

end DialogueBody

namespace ChoiceBody

/-- The ways to lay out the body of a choice, with its lines. -/
def LaidOut (body : ChoiceBody) (written : Datum) : Prop :=
  ∃ lines, List.Forall₂ ChoiceLine.LaidOut body.lines lines ∧
    written = .record [("lines", .list lines)]

theorem reads {body : ChoiceBody} (laid : body.LaidOut written) (around : Shape) :
    Reads (levels + 6) around (Notated.shape ChoiceBody) ⟨written, toDatum body, true⟩ := by
  obtain ⟨lines, eachLaid, rfl⟩ := laid
  have linesRead : Reads (levels + 4) around (Notated.shape (List ChoiceLine))
      ⟨.list lines, toDatum body.lines, true⟩ :=
    reads_laidOut_list (fun laid => ChoiceLine.reads laid around) eachLaid
  have each : EachReads (levels + 4) around (Notated.shape ChoiceBody).fields
      [("lines", ⟨.list lines, toDatum body.lines, true⟩)] :=
    .cons linesRead .nil
  exact Reads.record (by decide) (by decide) each
    (fun _ member => absurd member List.not_mem_nil) (Arranged.refl [] _)

end ChoiceBody

/-! ## Events -/

namespace ConditionRule

/-- A condition is read where reading goes deep enough for it, and refused elsewhere. -/
theorem reads (rule : ConditionRule) (around : Shape) :
    Reads levels around (Notated.shape ConditionRule)
      ⟨toDatum rule, toDatum rule, rule.depth ≤ levels⟩ := by
  by_cases enough : rule.depth ≤ levels
  · rw [decide_eq_true enough]
    exact (rule.said.mono enough).reads around
  · rw [decide_eq_false enough]
    exact fun _ => ⟨rule.said.begins, fun _ => rule.readDatum_tooDeep (Nat.not_le.1 enough) _⟩

end ConditionRule

namespace EventBody

/-- What may be left out of the body of an event. -/
def defaults : List (String × Datum) :=
  [("mode", toDatum Mode.sequential), ("conditions", toDatum ([] : List ConditionRule)),
    ("results", toDatum ([] : List EffectRule))]

/-- The ways to lay out the body of an event. -/
def LaidOut (body : EventBody) (written : Datum) : Prop :=
  ∃ shown, Arranged defaults (toDatum body).fields shown ∧ written = .record shown

/-- No condition is nested deeper than so many levels. -/
def isShallow (levels : Nat) (body : EventBody) : Bool :=
  body.conditions.all fun rule => rule.depth ≤ levels

theorem defaults_stand (around : Shape) :
    ∀ default ∈ defaults, Stands (levels + 2) around (Notated.shape EventBody).fields default := by
  have nothing {shape : Shape} : Reads (levels + 2) around (.list shape)
      ⟨.list [], .list [], true⟩ :=
    (Fits.list fun _ member => absurd member List.not_mem_nil :
      Fits anyNumber (levels + 2) around (.list shape) (.list [])).reads
  simp only [defaults, List.forall_mem_cons]
  exact ⟨⟨_, rfl, rfl, reads_text "Sequential"⟩, ⟨_, rfl, rfl, nothing⟩, ⟨_, rfl, rfl, nothing⟩,
    fun _ member => absurd member List.not_mem_nil⟩

theorem reads {body : EventBody} (laid : body.LaidOut written) (enough : 5 ≤ levels)
    (around : Shape) :
    Reads (levels + 4) around (Notated.shape EventBody)
      ⟨written, toDatum body, body.isShallow levels⟩ := by
  obtain ⟨shown, arranged, rfl⟩ := laid
  have logic : Reads (levels + 2) around .text ⟨toDatum body.logic, toDatum body.logic, true⟩ :=
    reads_text body.logic.tag
  have mode : Reads (levels + 2) around .text ⟨toDatum body.mode, toDatum body.mode, true⟩ :=
    reads_text body.mode.tag
  have conditions : Reads (levels + 2) around (Notated.shape (List ConditionRule))
      ⟨toDatum body.conditions, toDatum body.conditions, body.isShallow levels⟩ :=
    Reads.list (List.forall₂_map_right_iff.2 (List.forall₂_same.2 fun rule _ =>
      rule.reads around))
  have effects : Says anyNumber (levels + 2) body.results (toDatum body.results) :=
    said_list fun rule _ => rule.said.mono enough
  have each : EachReads (levels + 2) around (Notated.shape EventBody).fields
      [("logic", ⟨toDatum body.logic, toDatum body.logic, true⟩),
        ("mode", ⟨toDatum body.mode, toDatum body.mode, true⟩),
        ("conditions", ⟨toDatum body.conditions, toDatum body.conditions, body.isShallow levels⟩),
        ("results", ⟨toDatum body.results, toDatum body.results, true⟩)] :=
    .cons logic <| .cons mode <| .cons conditions <| .cons (effects.reads around) .nil
  have record : Reads (levels + 4) around (Notated.shape EventBody) _ :=
    Reads.record (by decide) (by decide) each (defaults_stand around) arranged
  simp only [List.all_cons, List.all_nil, Bool.true_and, Bool.and_true] at record
  exact record

theorem isShallow_of_readable {body : EventBody} {outer : Nat} (room : outer ≤ greatestDepth)
    (readable : body.Readable outer) : body.isShallow (greatestDepth - outer) = true := by
  refine List.all_eq_true.2 fun rule member => decide_eq_true ?_
  have shallow := readable.conditions rule member
  omega

theorem isShallow_of_deep {body : EventBody} {outer : Nat} (room : outer ≤ greatestDepth)
    {rule : ConditionRule} (member : rule ∈ body.conditions)
    (deep : greatestDepth < rule.depth + outer) :
    body.isShallow (greatestDepth - outer) = false := by
  refine List.all_eq_false.2 ⟨rule, member, ?_⟩
  rw [decide_eq_true_iff]
  omega

variable {body : EventBody}

theorem readAs_of_readable (laid : body.LaidOut written) (readable : body.Readable 4) :
    readAs EventBody (String.ofList (print written)) = .ok body := by
  have read : Reads greatestDepth .enclosing (Notated.shape EventBody)
      ⟨written, toDatum body, body.isShallow (greatestDepth - 4)⟩ :=
    reads laid (by decide) _
  rw [isShallow_of_readable (by decide) readable] at read
  exact readAs_of_reads read (EventBody.said (by decide) readable).returns

theorem readAs_of_deep (laid : body.LaidOut written) {rule : ConditionRule}
    (member : rule ∈ body.conditions) (deep : greatestDepth < rule.depth + 4) :
    readAs EventBody (String.ofList (print written)) = .error .tooDeep := by
  have read : Reads greatestDepth .enclosing (Notated.shape EventBody)
      ⟨written, toDatum body, body.isShallow (greatestDepth - 4)⟩ :=
    reads laid (by decide) _
  rw [isShallow_of_deep (by decide) member deep] at read
  exact readAs_of_tooDeep read

end EventBody

end BranchingStory
