/-!
# Paths

A path is text in which slashes separate names. Repeated slashes count as one, and a
slash at the end asks for a directory, as a single dot does.
-/

namespace BranchingStory.Files.Path

/-- The pieces between slashes, empty ones among them. -/
def pieces : List Char → List (List Char)
  | [] => [[]]
  | char :: rest =>
      if char = '/' then [] :: pieces rest
      else match pieces rest with
        | [] => [[char]]
        | piece :: others => (char :: piece) :: others

/-- The names on the way along a path; a slash at the end counts as a dot. -/
def names (path : String) : List String :=
  let found := (pieces path.toList).filter fun piece => !piece.isEmpty
  (if path.toList.getLast? = some '/' then found ++ [['.']] else found).map String.ofList

/-- The path of a name inside a directory. -/
def join (directory name : String) : String :=
  if directory.toList.getLast? = some '/' then directory ++ name
  else directory ++ "/" ++ name

/-- What stands behind the last dot of a name. A name that has no dot, or only one in
front, has no extension. -/
def extension? (name : String) : Option String :=
  let backwards := name.toList.reverse
  let extension := backwards.takeWhile (· ≠ '.')
  match backwards.dropWhile (· ≠ '.') with
  | [] | [_] => none
  | _ :: _ :: _ => some (String.ofList extension.reverse)

/-- The extension of package files. -/
def packageExtension : String := "ron"

/-- Whether a name is that of a package file. -/
def isPackage (name : String) : Bool := extension? name == some packageExtension

/-- Whether a path comes before another one or is the same: the names on the way decide,
from the first one on. -/
def before (left right : String) : Bool := (compare (names left) (names right)).isLE

end BranchingStory.Files.Path
