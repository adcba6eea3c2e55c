/-!
# Choices

A choice offers lines to the player. A line may be gated by a least score of
responsibility, may be tagged as good or bad, and may skip part of a tutorial.
-/

namespace BranchingStory

/-- The tag that an author gives to an option. -/
structure Classification where
  tag : String
  deriving DecidableEq, Repr

namespace Classification

/-- No tag. -/
def none : Classification := ⟨""⟩

/-- Whether the tag is a word of small letters, written in letters of any case. Only
the letters of the Latin alphabet without marks have two cases here. -/
def spells (classification : Classification) (word : String) : Bool :=
  classification.tag.toList.map Char.toLower == word.toList

def isGood (classification : Classification) : Bool := classification.spells "good"

def isBad (classification : Classification) : Bool := classification.spells "bad"

def isNeutral (classification : Classification) : Bool :=
  !classification.isGood && !classification.isBad

end Classification

/-- The skip of a line that does not skip. -/
def noSkip : Int32 := -1

/-- One option of a choice. -/
structure ChoiceLine where
  text : String
  /-- What follows when the option is taken. -/
  next : String
  classification : Classification
  /-- The step of the tutorial to go on with; a negative number skips nothing. -/
  tutorialSkip : Int32
  /-- The score that opens the option. -/
  minResponsibility : Int64
  deriving DecidableEq, Repr

namespace ChoiceLine

/-- An option that is open to everybody, has no tag and skips nothing. -/
def plain (text next : String) : ChoiceLine := ⟨text, next, .none, noSkip, 0⟩

/-- The step of the tutorial to go on with, if the line skips. -/
def tutorialSkipIndex? (line : ChoiceLine) : Option Nat :=
  if line.tutorialSkip < 0 then none else some line.tutorialSkip.toInt.toNat

/-- Whether a score opens the option. -/
def isOpenTo (line : ChoiceLine) (responsibility : Int64) : Bool :=
  line.minResponsibility ≤ responsibility

end ChoiceLine

/-- A list of options. -/
structure Choice where
  id : String
  lines : List ChoiceLine
  deriving DecidableEq, Repr

end BranchingStory
