import BranchingStory.Text.CharacterClass

/-!
# Access to files and streams

What the programs ask of a file system: to read and write whole texts, to list a
directory, and to tell files from directories. Every call may fail by itself, so that a
caller decides what a failure means. A program that has run leaves an exit code and what
it wrote to its two streams.
-/

namespace BranchingStory

namespace Files

/-- Why access failed. -/
inductive Fault where
  | notFound
  | notDirectory
  | isDirectory
  | denied
  | notText
  deriving DecidableEq, Repr

/-- The cause in words. -/
def Fault.message : Fault → String
  | .notFound => "No such file or directory (os error 2)"
  | .notDirectory => "Not a directory (os error 20)"
  | .isDirectory => "Is a directory (os error 21)"
  | .denied => "Permission denied (os error 13)"
  | .notText => "stream did not contain valid UTF-8"

/-- A file system that is used through a monad. -/
class FileAccess (m : Type → Type) where
  /-- The text of a file. -/
  read : String → m (Except Fault String)
  /-- The names of everything in a directory, in any order. -/
  list : String → m (Except Fault (List String))
  isFile : String → m Bool
  isDirectory : String → m Bool
  /-- Makes a text the content of a file, which need not be there before. -/
  write : String → String → m (Except Fault Unit)

end Files

/-- The outcome of a program. -/
structure Finished where
  exitCode : UInt8
  output : String
  errors : String
  deriving DecidableEq, Repr

/-- The outcome of a program that wrote some lines to its streams. -/
def Finished.ofLines (exitCode : UInt8) (output errors : List String) : Finished :=
  ⟨exitCode, Text.unlines output, Text.unlines errors⟩

end BranchingStory
