import BranchingStory.Table
import BranchingStory.Value

/-!
# The state of a player

A host keeps the variables of a player as it likes; the interpreter only looks them up
and sets them. One variable has a meaning of its own: the score of responsibility,
which gates the lines of choices and never counts as negative. `Variables` is the
state of a host that has nothing but variables.
-/

namespace BranchingStory

/-- The variable that holds the score of responsibility. -/
def responsibilityKey : String := "responsibility"

/-- The lowest score of responsibility. -/
def leastResponsibility : Int64 := 0

/-- The score that a variable stands for: its integer, not below the least score. An
unset variable and one without an integer stand for the least. -/
def scoreOf (value : Option Value) : Int64 :=
  max ((value.bind Value.asInt?).getD leastResponsibility) leastResponsibility

/-- A player's state as the interpreter sees it. A host may override the score; its
answer is taken as it is. -/
class PlayerState (σ : Type) where
  /-- The value of a variable, if it is set. -/
  get? : σ → String → Option Value
  /-- Sets a variable. -/
  set : σ → String → Value → σ
  /-- The score of responsibility. -/
  responsibility : σ → Int64 := fun state => scoreOf (get? state responsibilityKey)

/-- A state that consists of variables alone. -/
structure Variables where
  table : Table Value

namespace Variables

/-- No variable is set. -/
def empty : Variables := ⟨∅⟩

/-- The value of a variable, if it is set. -/
def get? (state : Variables) (key : String) : Option Value := state.table[key]?

/-- Sets a variable. -/
def set (state : Variables) (key : String) (value : Value) : Variables :=
  ⟨state.table.insert key value⟩

/-- Sets the score of responsibility. -/
def withResponsibility (state : Variables) (score : Int64) : Variables :=
  state.set responsibilityKey (.int score)

/-- How many variables are set. -/
def size (state : Variables) : Nat := state.table.size

/-- Whether no variable is set. -/
def isEmpty (state : Variables) : Bool := state.size == 0

/-- The variables in the order of their names. -/
def toList (state : Variables) : List (String × Value) := state.table.toList

@[simp] theorem get?_set (state : Variables) (key other : String) (value : Value) :
    (state.set key value).get? other =
      if key = other then some value else state.get? other := by
  simp only [get?, set, Std.ExtTreeMap.getElem?_insert]
  by_cases same : key = other
  · simp [same]
  · simp [same]

/-- Two states that hold the same values are the same state. -/
theorem ext_get? {left right : Variables}
    (same : ∀ key, left.get? key = right.get? key) : left = right := by
  cases left
  cases right
  exact congrArg Variables.mk (Std.ExtTreeMap.ext_getElem? same)

instance : PlayerState Variables where
  get? := get?
  set := set

end Variables

end BranchingStory
