import BranchingStory.Json.Number
import BranchingStory.Json.Text
import BranchingStory.Notation.Notated

/-!
# Data in JSON

Data of a shape have a second written form. A record is an object, or an array of its
fields in order; a case of an alternative is an object with the case as its only
member; an absent datum is null. How numbers with a fraction are written is a choice of
its own: as `FloatForm.literal` one that is not finite is null and cannot be read back.
-/

namespace BranchingStory.Json

open Notation

/-- A number of the program's own as JSON. -/
def ofInt (value : Int) : Json := .number (integerLiteral value)

/-- How numbers with a fraction are written and read. -/
structure FloatForm where
  write : Decimal.Binary64 → Json
  read? : Json → Option Decimal.Binary64

namespace FloatForm

/-- Reads a literal as a number; an integer is taken as the nearest one. -/
def readLiteral? : Json → Option Decimal.Binary64
  | .number literal =>
      match numeric? literal with
      | some (.float value) => some value
      | some (.integer value) =>
          let magnitude := Decimal.Binary64.ofNat value.natAbs
          some (if value < 0 then magnitude.neg else magnitude)
      | none => none
  | _ => none

/-- Finite numbers are literals, and all others are null. -/
def literal : FloatForm where
  write value := match floatLiteral? value with
    | some literal => .number literal
    | none => .null
  read? := readLiteral?

end FloatForm

mutual

/-- A datum as JSON. -/
def ofDatum (form : FloatForm) : Datum → Json
  | .text text => .string text
  | .truth truth => .bool truth
  | .float value => form.write value
  | .integer value => ofInt value
  | .absent => .null
  | .present datum => ofDatum form datum
  | .list items => .array (ofItems form items)
  | .table entries => .object (ofFields form entries)
  | .pair first second => .array [ofDatum form first, ofDatum form second]
  | .record fields => .object (ofFields form fields)
  | .holding case datum => .object [(case, ofDatum form datum)]
  | .having case fields => .object [(case, .object (ofFields form fields))]

/-- The elements of a list as JSON. -/
def ofItems (form : FloatForm) : List Datum → List Json
  | [] => []
  | item :: items => ofDatum form item :: ofItems form items

/-- Named data as the members of an object. -/
def ofFields (form : FloatForm) : List (String × Datum) → List (String × Json)
  | [] => []
  | (name, datum) :: fields => (name, ofDatum form datum) :: ofFields form fields

end

/-- A value of a notated type as JSON. -/
def of {α : Type} [Notated α] (form : FloatForm) (value : α) : Json :=
  ofDatum form (toDatum value)

/-- The fields of an object. A field that stands twice is refused, and members that are
no fields are passed over. -/
def namedFields (value : Shape → Json → Option Datum) (fields : List Field) :
    List (String × Json) → Option (List (String × Datum))
  | [] => some []
  | (name, json) :: members => do
      let found ← namedFields value fields members
      match fields.find? fun field => field.name == name with
      | none => return found
      | some field =>
          if (lookUp name found).isSome then none
          else return (name, ← value field.shape json) :: found

/-- The fields of an array, in order. Fields may be left out at the end, if something
stands in for them. -/
def listedFields (value : Shape → Json → Option Datum) :
    List Field → List Json → Option (List (String × Datum))
  | [], [] => some []
  | [], _ :: _ => none
  | field :: fields, [] => do
      let datum ← field.trailingFallback
      return (field.name, datum) :: (← listedFields value fields [])
  | field :: fields, json :: items => do
      let datum ← value field.shape json
      return (field.name, datum) :: (← listedFields value fields items)

/-- All fields of a record. -/
def fieldsOf (value : Shape → Json → Option Datum) (fields : List Field) :
    Json → Option (List (String × Datum))
  | .object members => do
      let found ← namedFields value fields members
      (complete found fields).toOption
  | .array items => listedFields value fields items
  | _ => none

/-- A JSON value as a datum of a shape inside a nearest alternative. The levels bound the
nesting. -/
def toDatum? (form : FloatForm) :
    (levels : Nat) → (around shape : Shape) → Json → Option Datum
  | 0, _, _, _ => none
  | levels + 1, around, shape, json =>
    let shape := match shape with
      | .enclosing => around
      | shape => shape
    let around := match shape with
      | .alternative .. => shape
      | _ => around
    let inner := toDatum? form levels around
    match shape, json with
    | .text, .string text => some (.text text)
    | .truth, .bool truth => some (.truth truth)
    | .float, json => (form.read? json).map .float
    | .integer range, .number literal =>
        match numeric? literal with
        | some (.integer value) =>
            if range.contains value then some (.integer value) else none
        | _ => none
    | .optional _, .null => some .absent
    | .optional shape, json => (inner shape json).map .present
    | .list shape, .array items => (items.mapM (inner shape)).map .list
    | .table shape, .object members =>
        (members.mapM fun (member : String × Json) =>
          (inner shape member.2).map fun datum => (member.1, datum)).map .table
    | .pair first second, .array [left, right] => do
        return .pair (← inner first left) (← inner second right)
    | .record _ fields, json => (fieldsOf inner fields json).map .record
    | .alternative _ cases, .object [(name, json)] =>
        match cases.find? fun known => known.name == name with
        | some (.holding case shape) => (inner shape json).map (.holding case)
        | some (.having case fields) => (fieldsOf inner fields json).map (.having case)
        | none => none
    | _, _ => none

/-- Reads a JSON value as a value of a notated type. -/
def as? (form : FloatForm) (α : Type) [Notated α] (json : Json) : Option α :=
  (toDatum? form greatestDepth .enclosing (Notated.shape α) json).bind ofDatum?

end BranchingStory.Json
