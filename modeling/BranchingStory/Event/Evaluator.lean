import BranchingStory.Event.Rule
import BranchingStory.Event.Tag
import BranchingStory.Shuffle.Order
import BranchingStory.StoryError

/-!
# Events

An event fires when its conditions hold under its logic, and then applies all its
effects, in order or in a random order. Conditions are consulted from the first one
until the outcome is certain. Every firing in random order uses a seed of its own,
made of the seed of the playthrough and the number of such firings before it.
-/

namespace BranchingStory

/-- A conditional rule bound to a host. -/
structure Event (σ : Type) where
  id : String
  logic : Logic
  mode : Mode
  conditions : List (Condition σ)
  effects : List (Effect σ)

/-- The seed of a playthrough and how many random orders it has used. -/
structure ShuffleState where
  seed : UInt64
  draws : UInt64
  deriving DecidableEq, Repr

namespace ShuffleState

/-- No random order has been used. -/
def start (seed : UInt64) : ShuffleState := ⟨seed, 0⟩

/-- The odd number by which the count of orders is multiplied. -/
def mixer : UInt64 := 0x9E3779B97F4A7C15

/-- The seed for the next random order. Multiplying by an odd number keeps the orders of one
playthrough apart. It also keeps the next order of a playthrough apart from the order that
the next seed has one step before, save for eight pairs of a seed and a count at which the
two seeds are the same. -/
def orderSeed (shuffle : ShuffleState) : UInt64 := shuffle.seed ^^^ (shuffle.draws * mixer)

/-- One random order more has been used. -/
def next (shuffle : ShuffleState) : ShuffleState :=
  { shuffle with draws := shuffle.draws + 1 }

end ShuffleState

/-- What became of an event. -/
structure EventReport where
  fired : Bool
  /-- The indices of the effects in the order in which they were applied. -/
  applied : List Nat
  /-- The names of the host bindings that were called, in order. -/
  hostCalls : List String
  deriving DecidableEq, Repr

variable {σ : Type} [PlayerState σ]

/-- The conditions up to and including the first that settles the outcome: one with the
given truth. All of them, if none does. -/
def consultUntil (settling : Bool) (state : σ) : List (Condition σ) → List (Condition σ)
  | [] => []
  | condition :: conditions =>
      if condition.holds state = settling then [condition]
      else condition :: consultUntil settling state conditions

namespace Event

/-- The conditions that are consulted in a state, in order. -/
def consulted (event : Event σ) (state : σ) : List (Condition σ) :=
  match event.logic with
  | .and => consultUntil false state event.conditions
  | .or => consultUntil true state event.conditions
  | .unrecognized _ => []

/-- Whether the conditions hold under the logic. -/
def evaluate (event : Event σ) (state : σ) : Except StoryError Bool :=
  match event.logic with
  | .and => .ok (event.conditions.all (·.holds state))
  | .or => .ok (event.conditions.any (·.holds state))
  | .unrecognized tag => .error (.invalidLogic tag)

/-- The host bindings that are called to find out whether the event fires. -/
def conditionCalls (event : Event σ) (state : σ) : List String :=
  (event.consulted state).filterMap Condition.hostName?

/-- Applies the effects at some indices, one after another. -/
def applyInOrder (event : Event σ) (state : σ) (order : List Nat) : σ :=
  order.foldl
    (fun state index => match event.effects[index]? with
      | some effect => effect.apply state
      | none => state)
    state

/-- The host bindings that the effects at some indices call. -/
def effectCalls (event : Event σ) (order : List Nat) : List String :=
  order.filterMap fun index => event.effects[index]?.bind Effect.hostName?

/-- The order in which the effects would be applied now, and the shuffle state after
that. Only the random mode uses up an order. -/
def nextOrder (event : Event σ) (shuffle : ShuffleState) : List Nat × ShuffleState :=
  let count := event.effects.length
  match event.mode with
  | .concurrent =>
      (Shuffle.order (Shuffle.Stream.ofSeed shuffle.orderSeed) count, shuffle.next)
  | _ => (List.range count, shuffle)

/-- Fires the event if its conditions hold. The result comes with the shuffle state and
the player's state afterwards, which a refused or idle event leaves as they were. -/
def apply (event : Event σ) (shuffle : ShuffleState) (state : σ) :
    Except StoryError EventReport × ShuffleState × σ :=
  match event.mode with
  | .unrecognized tag => (.error (.invalidMode tag), shuffle, state)
  | _ =>
      match event.evaluate state with
      | .error error => (.error error, shuffle, state)
      | .ok false => (.ok ⟨false, [], event.conditionCalls state⟩, shuffle, state)
      | .ok true =>
          let (order, after) := event.nextOrder shuffle
          (.ok ⟨true, order, event.conditionCalls state ++ event.effectCalls order⟩,
            after, event.applyInOrder state order)

end Event

end BranchingStory
