import BranchingStory.Files.Access
import BranchingStory.Store.Sources

/-!
# The package linter

The linter reads a package file, or all package files in a directory and below it, and
reports every issue of the story they make up. Its exit code tells whether there are
errors or, on request, warnings.
-/

namespace BranchingStory

namespace Linter

open Files Validation

/-- How to call the linter. -/
def usage : String :=
  "Usage: package_linter <package_dir|package_file> [--warnings-as-errors]"

/-- The option that makes warnings count. -/
def warningsOption : String := "--warnings-as-errors"

/-- How many levels of directories are searched. No path that goes deeper can be named
to the system. -/
def greatestDepth : Nat := 4096

variable {m : Type → Type} [Monad m] [FileAccess m]

/-- The package files in a directory and below it, down to a number of levels, in no
order. Directories that cannot be listed are passed over. -/
def collect : (levels : Nat) → String → m (List String)
  | 0, _ => return []
  | levels + 1, directory => do
      match ← FileAccess.list directory with
      | .error _ => return []
      | .ok names =>
          let found ← names.mapM fun name => do
            let path := Path.join directory name
            if ← FileAccess.isDirectory path then collect levels path
            else return if Path.isPackage name then [path] else []
          return found.flatten

/-- The files that a path stands for: a file itself, or the package files in a directory
and below it, in order. -/
def filesOf (path : String) : m (Option (List String)) := do
  if ← FileAccess.isFile path then return some [path]
  else if ← FileAccess.isDirectory path then
    return some ((← collect greatestDepth path).mergeSort Path.before)
  else return none

/-- One issue as a line of the report. -/
def issueLine (issue : Issue) : String :=
  match issue.severity with
  | .warning => s!"WARNING: {issue.text}"
  | .error => s!"ERROR: {issue.text}"

/-- How many issues have a severity. -/
def count (severity : Severity) (issues : List Issue) : Nat :=
  issues.countP (·.severity == severity)

/-- The report on some issues, line by line. -/
def report (issues : List Issue) : List String :=
  let errors := Text.Numeral.natural (count .error issues)
  let warnings := Text.Numeral.natural (count .warning issues)
  ["", "=== Package Lint Report ===", ""] ++
    (if issues.isEmpty then ["All checks passed!"] else []) ++
    issues.map issueLine ++
    ["", s!"Summary: {errors} errors, {warnings} warnings"]

/-- Whether some issues make the linter fail. -/
def fails (warningsAsErrors : Bool) (issues : List Issue) : Bool :=
  0 < count .error issues || (warningsAsErrors && 0 < count .warning issues)

/-- Checks the story of some files. -/
def check (files : List String) (warningsAsErrors : Bool) : m Finished := do
  let loading := files.map fun file => s!"  Loading: {file}"
  let bindings : HostBindings Variables := .none
  let built ← (Sources.build ⟨[], files, []⟩ bindings false).run
  match built with
  | .error error =>
      return .ofLines 1 loading [s!"ERROR: Failed to load package: {error.message}"]
  | .ok store =>
      let size := Text.Numeral.natural store.size
      let fileCount := Text.Numeral.natural files.length
      let issues := store.validate
      return .ofLines (if fails warningsAsErrors issues then 1 else 0)
        (loading ++ s!"Loaded {size} nodes from {fileCount} file(s)" :: report issues) []

/-- Runs the linter. -/
def run (arguments : List String) : m Finished := do
  match arguments with
  | [] => return .ofLines 0 [usage] []
  | path :: options =>
      if path = "--help" ∨ path = "-h" then return .ofLines 0 [usage] []
      else
        match ← filesOf path with
        | some files => check files (options.contains warningsOption)
        | none => return .ofLines 1 [] [s!"ERROR: Path '{path}' does not exist"]

end Linter

end BranchingStory
