import BranchingStory.Notation.Skip

/-!
# Reading record notation

A text is read as a datum of the shape that is asked for. Fields may stand in any order
and be followed by a comma; a field that nobody asked for is passed over, one that
stands twice is refused, and one that is missing is filled in or reported at the end of
its record. Nesting is limited, which also makes reading end.
-/

namespace BranchingStory.Notation

open Decimal Text

/-- How many levels of nesting are allowed. -/
def greatestDepth : Nat := 128

/-- A reader for data of any shape. -/
abbrev ShapeReader := Shape → List Char → Except Fault (Datum × List Char)

/-- Reads the fields between parentheses, whose names and values lie two levels down. The
result has the fields that were found, the last one first. -/
def readFields (levels : Nat) (value : ShapeReader)
    (skip : List Char → Except Fault (List Char)) (owner : String) (fields : List Field) :
    (limit : Nat) → (separated : Bool) → (found : List (String × Datum)) → List Char →
      Except Fault (List (String × Datum) × List Char)
  | 0, _, _, _ => .error .malformed
  | limit + 1, separated, found, input => do
      let (more, input) ← hasElement ')' separated input
      if more then
        descend levels 2
        let (name, input) ← identifier input
        match fields.find? fun field => field.name == name with
        | some field =>
            if (lookUp name found).isSome then
              throw (.duplicateField name owner)
            let (datum, input) ← value field.shape (← colon input)
            let (separated, input) ← comma input
            let found := (name, datum) :: found
            readFields levels value skip owner fields limit separated found input
        | none =>
            let input ← skip (← colon input)
            let (separated, input) ← comma input
            readFields levels value skip owner fields limit separated found input
      else
        return (found, input)

/-- Passes over the name that may stand in front of a record. -/
def recordName (name : String) (input : List Char) : Except Fault (List Char) :=
  if input.head?.any isWordChar then
    match identifier input with
    | .error _ => .error .malformed
    | .ok (found, rest) =>
        if found = name then skipGap rest else .error (.differentName name found)
  else
    skipGap input

/-- Reads the fields of a record or a case between parentheses. -/
def readFieldList (implicit : Bool) (levels : Nat) (value : ShapeReader) (owner : String)
    (fields : List Field) (input : List Char) :
    Except Fault (List (String × Datum) × List Char) := do
  let input ← expect '(' input
  descend levels 1
  let skip := skipDatum implicit (levels - 2)
  let (found, input) ←
    readFields levels value skip owner fields (input.length + 1) true [] input
  match complete found fields with
  | .error missing => throw (.missingField missing owner)
  | .ok fields => return (fields, ← expect ')' input)

/-- Reads a datum that stands for a present one without a mark, where that is allowed. -/
def readBare (implicit : Bool) (value : List Char → Except Fault (Datum × List Char))
    (input : List Char) : Except Fault (Datum × List Char) := do
  if implicit then
    let (datum, input) ← value input
    return (.present datum, input)
  else
    throw .malformed

/-- Reads a datum that may be absent. -/
def readOptional (implicit : Bool) (value : List Char → Except Fault (Datum × List Char))
    (input : List Char) : Except Fault (Datum × List Char) :=
  match dropText? "None" input, dropText? "Some" input with
  | some rest, _ => .ok (.absent, rest)
  | none, some rest => do
      match ← skipGap rest with
      | '(' :: inside =>
          let (datum, input) ← value (← skipGap inside)
          let (_, input) ← comma input
          return (.present datum, ← expect ')' input)
      | rest => readBare implicit value rest
  | none, none => readBare implicit value input

/-- Reads the items between brackets. -/
def readList (levels : Nat) (item : List Char → Except Fault (Datum × List Char))
    (input : List Char) : Except Fault (Datum × List Char) := do
  let input ← expect '[' input
  descend levels 1
  let (items, input) ← elements ']' item (input.length + 1) true input
  return (.list items, ← expect ']' input)

/-- Reads an entry of a table: its quoted name and what stands under it. -/
def readEntry (levels : Nat) (value : List Char → Except Fault (Datum × List Char))
    (input : List Char) : Except Fault ((String × Datum) × List Char) := do
  descend levels 2
  let (name, input) ← text input
  let (datum, input) ← value (← colon input)
  return ((name, datum), input)

/-- Reads the entries between braces. -/
def readTable (levels : Nat) (value : List Char → Except Fault (Datum × List Char))
    (input : List Char) : Except Fault (Datum × List Char) := do
  let input ← expect '{' input
  descend levels 1
  let (entries, input) ←
    elements '}' (readEntry levels value) (input.length + 1) true input
  return (.table entries, ← expect '}' input)

/-- Reads two data between parentheses. -/
def readPair (levels : Nat) (first second : List Char → Except Fault (Datum × List Char))
    (input : List Char) : Except Fault (Datum × List Char) := do
  let input ← expect '(' input
  descend levels 1
  let (_, input) ← hasElement ')' true input
  let (left, input) ← first input
  let (separated, input) ← comma input
  let (_, input) ← hasElement ')' separated input
  let (right, input) ← second input
  let (_, input) ← comma input
  return (.pair left right, ← expect ')' input)

/-- Reads a case of an alternative with what it holds or has. -/
def readCase (implicit : Bool) (levels : Nat) (held field : ShapeReader) (name : String)
    (cases : List Case) (input : List Char) : Except Fault (Datum × List Char) := do
  descend levels 2
  let (found, input) ← identifier (← skipGap input)
  match cases.find? fun known => known.name == found with
  | none => throw (.unknownVariant found name (cases.map Case.name))
  | some (.holding case shape) =>
      let input ← skipGap (← expect '(' (← skipGap input))
      let (datum, input) ← held shape input
      let (_, input) ← comma input
      return (.holding case datum, ← expect ')' input)
  | some (.having case fields) =>
      let (fields, input) ←
        readFieldList implicit (levels - 1) field case fields (← skipGap input)
      return (.having case fields, input)

/-- The shape that is meant inside a nearest alternative. -/
def Shape.inside (shape around : Shape) : Shape :=
  match shape with
  | .enclosing => around
  | shape => shape

/-- Reads a datum of a shape inside a nearest alternative, with readers for what lies one
level, two levels and three levels below. -/
def readShape (implicit : Bool) (levels : Nat) (one two three : Shape → ShapeReader)
    (around shape : Shape) (input : List Char) : Except Fault (Datum × List Char) :=
  match shape.inside around with
  | .enclosing => .error .malformed
  | .text => (text input).map fun (text, rest) => (.text text, rest)
  | .truth => (truth input).map fun (truth, rest) => (.truth truth, rest)
  | .float => (float input).map fun (number, rest) => (.float number, rest)
  | .integer range =>
      (integer range input).map fun (number, rest) => (.integer number, rest)
  | .optional shape => readOptional implicit (one around shape) input
  | .list shape => readList levels (two around shape) input
  | .table shape => readTable levels (two around shape) input
  | .pair first second => readPair levels (two around first) (two around second) input
  | .record name fields => do
      let (fields, input) ←
        readFieldList implicit levels (two around) name fields (← recordName name input)
      return (.record fields, input)
  | .alternative name cases =>
      readCase implicit levels (two (.alternative name cases))
        (three (.alternative name cases)) name cases input

/-- Reads nothing, because nesting goes too deep. -/
def readTooDeep (_around : Shape) : ShapeReader := fun _ _ => .error .tooDeep

/-- Reads a datum of a shape inside a nearest alternative. A datum that is present lies one
level below. Fields and elements lie two levels below the datum they are in, one for the
list and one for what stands in it, and so does what a case holds; the fields of a case
lie three levels below. -/
def readDatum (implicit : Bool) : (levels : Nat) → (around : Shape) → ShapeReader
  | 0 => readShape implicit 0 readTooDeep readTooDeep readTooDeep
  | 1 => readShape implicit 1 (readDatum implicit 0) readTooDeep readTooDeep
  | 2 => readShape implicit 2 (readDatum implicit 1) (readDatum implicit 0) readTooDeep
  | levels + 3 =>
      readShape implicit (levels + 3) (readDatum implicit (levels + 2))
        (readDatum implicit (levels + 1)) (readDatum implicit levels)

/-- Reads a whole text as a datum of a shape. -/
def read (shape : Shape) (text : String) : Except Fault Datum := do
  let input ← skipGap text.toList
  let (implicit, input) ← attributes (input.length + 1) input
  let (datum, input) ← readDatum implicit greatestDepth .enclosing shape input
  match ← skipGap input with
  | [] => return datum
  | _ => throw .malformed

end BranchingStory.Notation
