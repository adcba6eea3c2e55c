/-!
# JSON

A number is kept as its literal, because what it is worth depends on what it is wanted
for. The members of an object are kept in the order of the text, repeated names among
them. Half of a surrogate pair may be escaped in a string, but is no character; where
nobody asks for the string, it does no harm.
-/

namespace BranchingStory

/-- A JSON value. -/
inductive Json where
  | null
  | bool (truth : Bool)
  | number (literal : List Char)
  | string (text : String)
  | array (items : List Json)
  | object (members : List (String × Json))
  /-- A string, or an object with a name, in which half of a surrogate pair stands. -/
  | unpaired
  deriving Inhabited

namespace Json

/-- The value of a member of an object, the first one of its name. -/
def member? (name : String) : Json → Option Json
  | .object members => members.lookup name
  | _ => none

end Json

end BranchingStory
