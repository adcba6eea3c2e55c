import BranchingStory.Choice.Basic
import BranchingStory.PlayerState
import BranchingStory.StoryError

/-!
# Open options and their outcome

Which options are open depends on the player's score at the moment of asking. The
floor of the score is applied here as well, so that an override by the host cannot
close an option that everybody may take.
-/

namespace BranchingStory

/-- An open option with its index among all lines of the choice. -/
structure OpenLine where
  index : Nat
  line : ChoiceLine
  deriving DecidableEq, Repr

/-- What taking an option leads to. -/
structure Outcome where
  next : String
  tutorialSkip : Option Nat
  classification : Classification
  deriving DecidableEq, Repr

namespace ChoiceLine

/-- What taking the option leads to. -/
def outcome (line : ChoiceLine) : Outcome :=
  ⟨line.next, line.tutorialSkipIndex?, line.classification⟩

end ChoiceLine

variable {σ : Type} [PlayerState σ]

/-- The player's score with the floor applied to an override as well. -/
def gateScore (state : σ) : Int64 :=
  max (PlayerState.responsibility state) leastResponsibility

namespace Choice

/-- The options that are open to a player, in order. -/
def openLines (choice : Choice) (state : σ) : List OpenLine :=
  (choice.lines.zipIdx.filter fun entry => entry.1.isOpenTo (gateScore state)).map
    fun entry => ⟨entry.2, entry.1⟩

/-- Takes the option at an index, if it is open to the player. -/
def resolve (choice : Choice) (index : Nat) (state : σ) : Except StoryError Outcome :=
  match choice.lines[index]?.filter fun line => line.isOpenTo (gateScore state) with
  | some line => .ok line.outcome
  | none => .error (.invalidSelection choice.id index)

end Choice

end BranchingStory
