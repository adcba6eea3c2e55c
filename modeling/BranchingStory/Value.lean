import BranchingStory.Decimal.Positional
import BranchingStory.Decimal.Reading

/-!
# Values of story variables

A variable holds text, a number, an integer of 64 bits or a truth value. Conditions
and gates look at a value in one of two ways: as an integer, which text and truth
values do not have, or as a truth value, which every value has.
-/

namespace BranchingStory

open Decimal

/-- What a story variable holds. -/
inductive Value where
  | string (text : String)
  | float (number : Binary64)
  | int (number : Int64)
  | bool (truth : Bool)
  deriving DecidableEq

namespace Value

/-- The value seen as an integer; a fraction is cut off. -/
def asInt? : Value → Option Int64
  | .int number => some number
  | .float number => some number.truncate
  | .string _ | .bool _ => none

/-- The value seen as a truth value: falsity, zeros and the empty text are false. -/
def isTruthy : Value → Bool
  | .bool truth => truth
  | .int number => number != 0
  | .float number => !number.isZero
  | .string text => !text.isEmpty

/-- Equality as conditions test it: values of one kind that are equal, numbers
numerically. The undefined number is not even equal to itself. -/
def equals : Value → Value → Bool
  | .string left, .string right => left == right
  | .float left, .float right => left.equals right
  | .int left, .int right => left == right
  | .bool left, .bool right => left == right
  | _, _ => false

/-- The text shown to a player. -/
def text : Value → String
  | .string text => text
  | .float number => number.text
  | .int number => Text.Numeral.integer number.toInt
  | .bool truth => if truth then "true" else "false"

/-- The value that a player's input stands for: an integer if it can be read as one,
else a number, else a truth value, else the text itself. -/
def ofInput (input : String) : Value :=
  match Text.Numeral.int64? input with
  | some number => .int number
  | none =>
    match Binary64.read? input.toList with
    | some number => .float number
    | none =>
      if input = "true" then .bool true
      else if input = "false" then .bool false
      else .string input

end Value

end BranchingStory
