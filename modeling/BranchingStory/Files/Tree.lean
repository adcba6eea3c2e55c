import BranchingStory.Files.Access
import BranchingStory.Files.Path

/-!
# File trees

A file tree is a file system that is a value: files and directories under names. Paths
lead from the top of the tree through its directories; at the top, the directory above
is the top itself.
-/

namespace BranchingStory.Files

/-- A file with its text, or a directory with what stands in it under names. -/
inductive FileTree where
  | file (text : String)
  | directory (entries : List (String × FileTree))
  deriving Inhabited

namespace FileTree

/-- No files and no directories below the top. -/
def empty : FileTree := .directory []

/-- What stands at a place, given by the names that lead to it. -/
def at? : FileTree → (place : List String) → Option FileTree
  | tree, [] => some tree
  | .directory entries, name :: names =>
      match entries.lookup name with
      | some tree => tree.at? names
      | none => none
  | .file _, _ :: _ => none

/-- The place that a name means in a directory. -/
def placeOf (directory : List String) (name : String) : List String :=
  if name = "." then directory
  else if name = ".." then directory.dropLast
  else directory ++ [name]

/-- The place that names lead to from another one. All on the way are directories; what
is asked for at the end need not be there. -/
def follow (tree : FileTree) : (place : List String) → (names : List String) →
    Except Fault (List String)
  | place, [] => .ok place
  | place, name :: names =>
      match tree.at? place with
      | some (.directory _) => follow tree (placeOf place name) names
      | some (.file _) => .error .notDirectory
      | none => .error .notFound

/-- The place that a path leads to. Only paths that begin at the top of the tree lead
anywhere in it. -/
def place (tree : FileTree) (path : String) : Except Fault (List String) :=
  match path.toList with
  | [] | '/' :: _ => .error .notFound
  | _ => tree.follow [] (Path.names path)

/-- What stands at the end of a path. -/
def find (tree : FileTree) (path : String) : Except Fault FileTree := do
  match tree.at? (← tree.place path) with
  | some found => return found
  | none => throw .notFound

/-- The text of a file. -/
def read (tree : FileTree) (path : String) : Except Fault String := do
  match ← tree.find path with
  | .file text => return text
  | .directory _ => throw .isDirectory

/-- The names of everything in a directory. -/
def list (tree : FileTree) (path : String) : Except Fault (List String) := do
  match ← tree.find path with
  | .directory entries => return entries.map Prod.fst
  | .file _ => throw .notDirectory

def isFile (tree : FileTree) (path : String) : Bool :=
  match tree.find path with
  | .ok (.file _) => true
  | _ => false

def isDirectory (tree : FileTree) (path : String) : Bool :=
  match tree.find path with
  | .ok (.directory _) => true
  | _ => false

/-- Puts something under a name, in place of what has it. -/
def putEntry (name : String) (tree : FileTree) :
    List (String × FileTree) → List (String × FileTree)
  | [] => [(name, tree)]
  | (other, found) :: entries =>
      if other = name then (name, tree) :: entries
      else (other, found) :: putEntry name tree entries

/-- Puts something at a place. Directories on the way are made where nothing or a file
stands. -/
def put (added : FileTree) : (place : List String) → FileTree → FileTree
  | [], _ => added
  | name :: names, tree =>
      let entries := match tree with
        | .directory entries => entries
        | .file _ => []
      .directory (putEntry name (put added names ((entries.lookup name).getD empty)) entries)

/-- Makes a text the content of a file. -/
def write (tree : FileTree) (path text : String) : Except Fault FileTree := do
  let place ← tree.place path
  match tree.at? place with
  | some (.directory _) => throw .isDirectory
  | _ => return put (.file text) place tree

/-- Makes a directory at a place unless there is one. -/
def makeDirectory (tree : FileTree) (place : List String) : FileTree :=
  match tree.at? place with
  | some (.directory _) => tree
  | _ => put empty place tree

/-- The tree of some files with their texts. A path that ends with a slash is that of a
directory. -/
def ofFiles (files : List (String × String)) : FileTree :=
  files.foldl
    (fun tree (path, text) =>
      let names := Path.names path
      if names.getLast? = some "." then tree.makeDirectory names.dropLast
      else put (.file text) names tree)
    empty

end FileTree

/-- A file tree that is changed by writing. -/
instance : FileAccess (StateM FileTree) where
  read path := do return (← get).read path
  list path := do return (← get).list path
  isFile path := do return (← get).isFile path
  isDirectory path := do return (← get).isDirectory path
  write path text := do
    match (← get).write path text with
    | .ok tree =>
        set tree
        return .ok ()
    | .error fault => return .error fault

end BranchingStory.Files
