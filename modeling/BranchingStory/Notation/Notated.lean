import BranchingStory.Notation.Printer
import BranchingStory.Notation.Reader

/-!
# Types with a record notation

A type is notated by a shape together with the data of that shape: each value is some
datum, and a datum of the shape is some value. Text is read and written through both.
-/

namespace BranchingStory.Notation

/-- A type whose values are data of a shape. -/
class Notated (α : Type) where
  shape : Shape
  toDatum : α → Datum
  /-- The value of a datum; data of another shape have none. -/
  ofDatum? : Datum → Option α

export Notated (toDatum ofDatum?)

variable {α β : Type} [Notated α] [Notated β]

/-- A value in record notation. -/
def write (value : α) : String := String.ofList (print (toDatum value))

/-- Reads a text as a value of a type. -/
def readAs (α : Type) [Notated α] (text : String) : Except Fault α := do
  let datum ← read (Notated.shape α) text
  match ofDatum? datum with
  | some value => return value
  | none => throw .malformed

instance : Notated String where
  shape := .text
  toDatum := .text
  ofDatum?
    | .text text => some text
    | _ => none

instance : Notated Int64 where
  shape := .integer .int64
  toDatum number := .integer number.toInt
  ofDatum?
    | .integer number => some (Int64.ofInt number)
    | _ => none

instance : Notated Int32 where
  shape := .integer .int32
  toDatum number := .integer number.toInt
  ofDatum?
    | .integer number => some (Int32.ofInt number)
    | _ => none

instance : Notated UInt64 where
  shape := .integer .word64
  toDatum number := .integer number.toNat
  ofDatum?
    | .integer number => some (UInt64.ofNat number.toNat)
    | _ => none

/-- Indices are written as numbers of 64 bits. -/
instance : Notated Nat where
  shape := .integer .word64
  toDatum number := .integer number
  ofDatum?
    | .integer number => some number.toNat
    | _ => none

instance : Notated (Option α) where
  shape := .optional (Notated.shape α)
  toDatum
    | none => .absent
    | some value => .present (toDatum value)
  ofDatum?
    | .absent => some none
    | .present datum => (ofDatum? datum).map some
    | _ => none

instance : Notated (List α) where
  shape := .list (Notated.shape α)
  toDatum items := .list (items.map toDatum)
  ofDatum?
    | .list items => items.mapM ofDatum?
    | _ => none

instance : Notated (α × β) where
  shape := .pair (Notated.shape α) (Notated.shape β)
  toDatum both := .pair (toDatum both.1) (toDatum both.2)
  ofDatum?
    | .pair first second => do return (← ofDatum? first, ← ofDatum? second)
    | _ => none

end BranchingStory.Notation
