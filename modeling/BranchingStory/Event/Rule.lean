import BranchingStory.PlayerState

/-!
# Conditions and effects

A condition asks about the state of a player and an effect changes it. As an author
writes them, in `ConditionRule` and `EffectRule`, they may name a binding of the host;
bound to a host, in `Condition` and `Effect`, that name comes with what the host does.
-/

namespace BranchingStory

/-- A condition as an author writes it. -/
inductive ConditionRule where
  | flag (key : String)
  | equals (key : String) (value : Value)
  | atLeast (key : String) (threshold : Int64)
  | atMost (key : String) (threshold : Int64)
  | not (rule : ConditionRule)
  | host (name : String)
  deriving DecidableEq

/-- An effect as an author writes it. -/
inductive EffectRule where
  | set (key : String) (value : Value)
  | add (key : String) (amount : Int64)
  | toggle (key : String)
  | host (name : String)
  deriving DecidableEq

/-- A condition bound to a host whose states are of a type. -/
inductive Condition (σ : Type) where
  | flag (key : String)
  | equals (key : String) (value : Value)
  | atLeast (key : String) (threshold : Int64)
  | atMost (key : String) (threshold : Int64)
  | not (condition : Condition σ)
  | host (name : String) (holds : σ → Bool)

/-- An effect bound to a host whose states are of a type. -/
inductive Effect (σ : Type) where
  | set (key : String) (value : Value)
  | add (key : String) (amount : Int64)
  | toggle (key : String)
  | host (name : String) (apply : σ → σ)

variable {σ : Type} [PlayerState σ]

/-- The integer that a variable stands for; unset and without an integer it is zero. -/
def numberOf (state : σ) (key : String) : Int64 :=
  ((PlayerState.get? state key).bind Value.asInt?).getD 0

/-- Whether a variable is set and counts as true. -/
def flagOf (state : σ) (key : String) : Bool :=
  (PlayerState.get? state key).any Value.isTruthy

namespace Condition

/-- Whether the condition holds in a state. -/
def holds (state : σ) : Condition σ → Bool
  | .flag key => flagOf state key
  | .equals key value => (PlayerState.get? state key).any fun found => found.equals value
  | .atLeast key threshold => threshold ≤ numberOf state key
  | .atMost key threshold => numberOf state key ≤ threshold
  | .not condition => !condition.holds state
  | .host _ holds => holds state

/-- The name of the host binding that the condition asks, if it asks one. -/
def hostName? : Condition σ → Option String
  | .not condition => condition.hostName?
  | .host name _ => some name
  | _ => none

end Condition

/-- The sum of two numbers of 64 bits, held within their range. -/
def saturatingAdd (left right : Int64) : Int64 :=
  Int64.ofIntClamp (left.toInt + right.toInt)

/-- What adding to a variable makes of its number. The score of responsibility does not
fall below the least. -/
def addedTo (key : String) (number amount : Int64) : Int64 :=
  let sum := saturatingAdd number amount
  if key = responsibilityKey then max sum leastResponsibility else sum

namespace Effect

/-- The state after the effect. -/
def apply (state : σ) : Effect σ → σ
  | .set key value => PlayerState.set state key value
  | .add key amount =>
      PlayerState.set state key (.int (addedTo key (numberOf state key) amount))
  | .toggle key => PlayerState.set state key (.bool !(flagOf state key))
  | .host _ apply => apply state

/-- The name of the host binding that the effect calls, if it calls one. -/
def hostName? : Effect σ → Option String
  | .host name _ => some name
  | _ => none

end Effect

end BranchingStory
