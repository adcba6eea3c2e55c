import BranchingStory.Text.Numeral

/-!
# Dialogues

A dialogue is a list of lines, each of which names what comes next: another line of
the dialogue, its end, or a node outside it. A line with a key answers to that key; a
line without one answers to every numeral of its own index. Where several lines answer
to one name the first of them is meant.
-/

namespace BranchingStory

/-- The name of the end of a dialogue. -/
def terminalName : String := "END"

/-- Whether what comes next is the end: its name or nothing. -/
def isTerminal (target : String) : Bool := target.isEmpty || target == terminalName

/-- One spoken line with its cues. -/
structure DialogueLine where
  /-- The name of the line inside its dialogue. -/
  key : Option String
  speaker : String
  text : String
  effect : String
  image : Option String
  sound : Option String
  cutscene : Option String
  /-- What comes after the line. -/
  next : String
  deriving DecidableEq, Repr

namespace DialogueLine

/-- Whether the line, which stands at an index, is meant by a name. -/
def answersTo (line : DialogueLine) (index : Nat) (name : String) : Bool :=
  match line.key with
  | some key => key == name
  | none => Text.Numeral.index? name == some index

end DialogueLine

/-- A list of lines that is entered at one of them. -/
structure Dialogue where
  id : String
  /-- The name of the line to begin with; without one it is the first. -/
  entry : Option String
  lines : List DialogueLine
  deriving DecidableEq, Repr

/-- What a name means inside a dialogue. -/
inductive Next where
  | line (index : Nat)
  | terminal
  | external (target : String)
  deriving DecidableEq, Repr

namespace Dialogue

/-- The first of some lines that a name means, the first of them standing at an index. -/
def lineIndexFrom? (name : String) : Nat → List DialogueLine → Option Nat
  | _, [] => none
  | index, line :: lines =>
      if line.answersTo index name then some index
      else lineIndexFrom? name (index + 1) lines

/-- The index of the first line that a name means. -/
def lineIndex? (dialogue : Dialogue) (name : String) : Option Nat :=
  lineIndexFrom? name 0 dialogue.lines

/-- The index of the line that the dialogue begins with. -/
def entryIndex? (dialogue : Dialogue) : Option Nat :=
  match dialogue.entry with
  | some name => dialogue.lineIndex? name
  | none => if dialogue.lines.isEmpty then none else some 0

/-- What a name means: the end, else a line of the dialogue, else something outside. -/
def classify (dialogue : Dialogue) (name : String) : Next :=
  if isTerminal name then .terminal
  else match dialogue.lineIndex? name with
    | some index => .line index
    | none => .external name

theorem lineIndexFrom?_lt {name : String} {lines : List DialogueLine} {start index : Nat}
    (found : lineIndexFrom? name start lines = some index) :
    index < start + lines.length := by
  induction lines generalizing start with
  | nil => simp [lineIndexFrom?] at found
  | cons line lines ih =>
      simp only [lineIndexFrom?] at found
      rw [List.length_cons]
      split at found
      · next answers =>
          cases found
          omega
      · next passes =>
          have later := ih found
          omega

/-- A name means lines of the dialogue only. -/
theorem lineIndex?_lt {dialogue : Dialogue} {name : String} {index : Nat}
    (found : dialogue.lineIndex? name = some index) : index < dialogue.lines.length := by
  have inside := lineIndexFrom?_lt found
  rw [Nat.zero_add] at inside
  exact inside

/-- A dialogue begins with one of its lines. -/
theorem entryIndex?_lt {dialogue : Dialogue} {index : Nat}
    (found : dialogue.entryIndex? = some index) : index < dialogue.lines.length := by
  unfold entryIndex? at found
  split at found
  · next name named => exact lineIndex?_lt found
  · next unnamed =>
      split at found
      · contradiction
      · next nonempty =>
          cases found
          exact List.length_pos_iff.2 (mt List.isEmpty_iff.2 nonempty)

end Dialogue

end BranchingStory
