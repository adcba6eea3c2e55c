/-!
# Words and faults of record notation

A word is what names a record, a field or a case. What no word may contain can still
be part of a raw word, which is marked as one where it stands.

A text in record notation that is refused has a fault. Faults of content have a cause of
their own, which quotes the words it is about; whatever breaks the form of the notation is
one cause.
-/

namespace BranchingStory.Notation

/-! ## Words -/

/-- A letter or the underscore: what a word begins with. -/
def isWordStart (char : Char) : Bool := char.isAlpha || char == '_'

/-- What a word goes on with. -/
def isWordChar (char : Char) : Bool := char.isAlphanum || char == '_'

/-- What a raw word consists of. -/
def isRawChar (char : Char) : Bool :=
  isWordChar char || char == '.' || char == '+' || char == '-'

/-- Whether a name is a word as it is. -/
def isWord (name : String) : Bool :=
  name.toList.head?.any isWordStart && name.toList.all isWordChar

/-- A name as it would have to stand in a text: one that is no word is marked as raw. -/
def spelled (name : String) : String := if isWord name then name else "r#" ++ name

/-! ## Faults -/

/-- Why a text was refused. -/
inductive Fault where
  | missingField (field owner : String)
  | duplicateField (field owner : String)
  | unknownVariant (found owner : String) (known : List String)
  | differentName (expected found : String)
  | outOfBounds
  /-- Records are nested too deep. -/
  | tooDeep
  /-- The text is not in record notation, or of another form than asked for. -/
  | malformed
  deriving DecidableEq, Repr

namespace Fault

/-- A name as messages quote it: spelled as in a text, between grave accents. -/
def quoted (name : String) : String := "\x60" ++ spelled name ++ "\x60"

/-- The cause in words. -/
def message : Fault → String
  | .missingField field owner =>
      "Unexpected missing field " ++ quoted field ++ " in " ++ quoted owner
  | .duplicateField field owner =>
      "Unexpected duplicate field " ++ quoted field ++ " in " ++ quoted owner
  | .unknownVariant found owner known =>
      "Unexpected variant named " ++ quoted found ++ "in enum " ++ quoted owner ++
        ", expected one of " ++ String.intercalate ", " (known.map quoted) ++ " instead"
  | .differentName expected found =>
      "Expected struct " ++ quoted expected ++ " but found " ++ quoted found
  | .outOfBounds => "Integer is out of bounds"
  | .tooDeep => "Nested too deep"
  | .malformed => "Malformed text"

end Fault

end BranchingStory.Notation
