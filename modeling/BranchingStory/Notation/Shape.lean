import BranchingStory.Decimal.Binary64

/-!
# Shapes and data

Record notation writes data of a known shape. A `Datum` is what a text says, and a
`Shape` is what a text is asked for: which fields a record has, what stands in for one
that is left out, and which cases an alternative has. A case may contain the
alternative itself, which is then said by `enclosing`.
-/

namespace BranchingStory.Notation

open Decimal

/-- What a text in record notation says. -/
inductive Datum where
  | text (text : String)
  | truth (truth : Bool)
  | float (number : Binary64)
  | integer (number : Int)
  | absent
  | present (datum : Datum)
  | list (items : List Datum)
  /-- Entries under their names, in the order of the text. -/
  | table (entries : List (String × Datum))
  | pair (first second : Datum)
  /-- The fields of a record under their names. -/
  | record (fields : List (String × Datum))
  /-- A case that holds one datum. -/
  | holding (case : String) (datum : Datum)
  /-- A case that has fields. -/
  | having (case : String) (fields : List (String × Datum))
  deriving Inhabited

/-- The integers that are allowed, and whether a sign may be written. -/
structure IntegerRange where
  least : Int
  greatest : Int
  signed : Bool
  deriving DecidableEq, Repr

namespace IntegerRange

def int32 : IntegerRange := ⟨Int32.minValue.toInt, Int32.maxValue.toInt, true⟩
def int64 : IntegerRange := ⟨Int64.minValue.toInt, Int64.maxValue.toInt, true⟩
def word64 : IntegerRange := ⟨0, UInt64.size - 1, false⟩

/-- Whether an integer is allowed. -/
def contains (range : IntegerRange) (number : Int) : Bool :=
  range.least ≤ number && number ≤ range.greatest

end IntegerRange

/-- What leaving out a field means. -/
inductive Omission where
  /-- The field has to be there. -/
  | refused
  /-- The field counts as absent when it is not named; in a list of fields without names
  its place has to be filled. -/
  | absence
  /-- A datum stands in for the field. -/
  | fallback (datum : Datum)

mutual

/-- What a text is asked for. -/
inductive Shape where
  | text
  | truth
  | float
  | integer (range : IntegerRange)
  | optional (shape : Shape)
  | list (shape : Shape)
  | table (shape : Shape)
  | pair (first second : Shape)
  | record (name : String) (fields : List Field)
  | alternative (name : String) (cases : List Case)
  /-- The nearest alternative around. -/
  | enclosing

/-- A field of a record, with what leaving it out means. -/
inductive Field where
  | mk (name : String) (shape : Shape) (omission : Omission)

/-- A case of an alternative: one datum or fields. -/
inductive Case where
  | holding (name : String) (shape : Shape)
  | having (name : String) (fields : List Field)

end

namespace Field

def name : Field → String
  | .mk name _ _ => name

def shape : Field → Shape
  | .mk _ shape _ => shape

def omission : Field → Omission
  | .mk _ _ omission => omission

/-- What stands in for a field that is not named. -/
def fallback (field : Field) : Option Datum :=
  match field.omission with
  | .refused => none
  | .absence => some .absent
  | .fallback datum => some datum

/-- What stands in for a field at the end of a list of fields without names. -/
def trailingFallback (field : Field) : Option Datum :=
  match field.omission with
  | .refused | .absence => none
  | .fallback datum => some datum

/-- A field that has to be there. -/
def required (name : String) (shape : Shape) : Field := .mk name shape .refused

/-- A field that may be absent. -/
def optional (name : String) (shape : Shape) : Field :=
  .mk name (.optional shape) .absence

/-- A field that may be left out. -/
def defaulting (name : String) (shape : Shape) (fallback : Datum) : Field :=
  .mk name shape (.fallback fallback)

end Field

namespace Case

def name : Case → String
  | .holding name _ | .having name _ => name

end Case

/-- The value of a field among fields read so far. -/
def lookUp (name : String) : List (String × Datum) → Option Datum
  | [] => none
  | (found, datum) :: rest => if found = name then some datum else lookUp name rest

/-- All fields of a record in the order of its shape, taken from those that were found
and filled in from the rest; the name of the first field that is missing otherwise. -/
def complete (found : List (String × Datum)) :
    List Field → Except String (List (String × Datum))
  | [] => .ok []
  | field :: fields =>
      match (lookUp field.name found).or field.fallback with
      | none => .error field.name
      | some datum => do
          let rest ← complete found fields
          pure ((field.name, datum) :: rest)

end BranchingStory.Notation
