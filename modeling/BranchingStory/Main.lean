import BranchingStory.Linter
import BranchingStory.Shell.Basic

/-!
# The command line

The first argument names the program to run: the linter or the shell. Both work on the
files of the system.
-/

namespace BranchingStory

open Files

/-- The cause of a failure that the system reports. -/
def Files.Fault.ofSystem : IO.Error → Fault
  | .noFileOrDirectory .. => .notFound
  | .permissionDenied .. => .denied
  | .inappropriateType _ code _ => if code = 20 then .notDirectory else .isDirectory
  | _ => .notText

/-- Runs an action whose failure is a fault. -/
def attempt {α : Type} (action : IO α) : IO (Except Fault α) := do
  try return .ok (← action)
  catch failure => return .error (.ofSystem failure)

/-- The files of the system. -/
instance : FileAccess IO where
  read path := attempt (IO.FS.readFile path)
  list path := attempt do
    let entries ← (← IO.FS.realPath path).readDir
    return entries.toList.map (·.fileName)
  isFile path := do
    let place ← attempt (IO.FS.realPath path)
    match place with
    | .ok place => return (← place.pathExists) && !(← place.isDir)
    | .error _ => return false
  isDirectory path := do
    let place ← attempt (IO.FS.realPath path)
    match place with
    | .ok place => place.isDir
    | .error _ => return false
  write path text := attempt (IO.FS.writeFile path text)

/-- Answers the lines of the input until one ends the shell or none is left. -/
partial def play (input output : IO.FS.Stream) (session : Shell.Playthrough) : IO Unit := do
  output.putStr Shell.prompt
  output.flush
  let line ← try input.getLine catch _ => pure ""
  if !line.isEmpty then
    let reply ← Shell.respond session line
    output.putStr (Text.unlines reply.lines)
    match reply.session with
    | none => output.flush
    | some session => play input output session

/-- Writes what a program left and hands on its exit code. -/
def conclude (finished : Finished) : IO UInt32 := do
  IO.print finished.output
  IO.eprint finished.errors
  return finished.exitCode.toUInt32

/-- Runs the shell on the input. -/
def runShell (arguments : List String) : IO UInt32 := do
  match ← (Shell.start arguments : IO _) with
  | .error finished => conclude finished
  | .ok (lines, session) =>
      IO.print (Text.unlines lines)
      play (← IO.getStdin) (← IO.getStdout) session
      return 0

end BranchingStory

open BranchingStory in
/-- Runs the program that the first argument names. -/
def main (arguments : List String) : IO UInt32 := do
  match arguments with
  | "package_linter" :: rest => conclude (← Linter.run rest)
  | "preview" :: rest => runShell rest
  | _ =>
      IO.println Linter.usage
      IO.println Shell.usage
      return 1
