import BranchingStory.Text.Numeral

/-!
# Settings of the shell

The shell is told on its command line where the package is, and may be given a seed for
random orders and a score of responsibility to begin with. A number that cannot be read
counts as not given.
-/

namespace BranchingStory.Shell

/-- How the shell is to be started. -/
structure Settings where
  package : Option String
  seed : UInt64
  responsibility : Int64
  deriving DecidableEq, Repr

namespace Settings

/-- The seed unless another one is given. -/
def standardSeed : UInt64 := 42

/-- The score unless another one is given. -/
def standardResponsibility : Int64 := 0

/-- No package is given yet. -/
def standard : Settings := ⟨none, standardSeed, standardResponsibility⟩

/-- Takes over the arguments of a command line, the later of two that set the same. The
first one that is not known is the error. -/
def withArguments : Settings → List String → Except String Settings
  | settings, "--package" :: path :: rest =>
      withArguments { settings with package := some path } rest
  | settings, "--seed" :: text :: rest =>
      let seed := (Text.Numeral.word? text).getD standardSeed
      withArguments { settings with seed } rest
  | settings, "--responsibility" :: text :: rest =>
      let responsibility := (Text.Numeral.int64? text).getD standardResponsibility
      withArguments { settings with responsibility } rest
  | _, argument :: _ => .error argument
  | settings, [] => .ok settings

end Settings

end BranchingStory.Shell
