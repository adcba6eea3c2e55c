import BranchingStory.Files.Access
import BranchingStory.Shell.Presentation
import BranchingStory.Shell.Settings
import BranchingStory.Store.Sources
import BranchingStory.Text.Lowercase
import BranchingStory.Text.CharacterClass

/-!
# The shell

The shell plays a story by commands, one a line. A command is a word and what follows
it; the shell answers with lines of text. It keeps one session, whose position and
variables can be written to a file and taken up again from there.
-/

namespace BranchingStory.Shell

open Files

/-- How to call the shell. -/
def usage : String := "Usage: preview --package <path> [--seed <n>] [--responsibility <n>]"

/-- What stands in front of every command. -/
def prompt : String := "preview> "

/-- What the commands do. -/
def help : List String := [
  "Commands:",
  "  enter <id>         : enter a dialogue, choice or event",
  "  next               : advance the current dialogue",
  "  choose <n>         : select option n of the current choice",
  "  set <key> <value>  : set a state variable",
  "  state              : print state variables",
  "  ids                : list every node id",
  "  lint               : run validation",
  "  save <file>        : write position and state to a file",
  "  load <file>        : restore position and state from a file",
  "  help               : show this help",
  "  quit               : exit"]

/-- A playthrough by a player that has variables alone. -/
abbrev Playthrough := Session Variables

/-- The lines that answer a command, and the session for the next one unless the shell
is to end. -/
structure Reply where
  lines : List String
  session : Option Playthrough

/-- An answer after which the shell goes on. -/
def Reply.goOn (lines : List String) (session : Playthrough) : Reply := ⟨lines, some session⟩

/-- The lines for a result: what is shown of it, or the error. -/
def resultLines {α : Type} (shown : α → List String) : Except StoryError α → List String
  | .ok value => shown value
  | .error error => [errorLine error.message]

/-- The answer of a move in the session. -/
def Reply.ofMove {α : Type} (shown : α → List String)
    (moved : Except StoryError α × Playthrough) : Reply :=
  .goOn (resultLines shown moved.1) moved.2

/-- What a shell writes to a file: the snapshot and the variables. -/
def saveText (session : Playthrough) : String :=
  Notation.write (session.snapshot, session.state)

/-- Takes up what was written to a file. The variables are taken over before the
position, and stay taken over when the position is refused. -/
def takeUp (session : Playthrough) (snapshot : Snapshot) (state : Variables) : Reply :=
  .ofMove (fun step => (step.map stepLines).getD ["Restored (idle)."])
    ((session.setState state).restore snapshot)

variable {m : Type → Type} [Monad m] [FileAccess m]

/-- Writes the playthrough to a file. -/
def save (session : Playthrough) (file : String) : m Reply := do
  match ← FileAccess.write file (saveText session) with
  | .ok () => return .goOn ["Saved to " ++ file] session
  | .error fault => return .goOn [errorLine fault.message] session

/-- Takes up the playthrough of a file. What cannot be read changes nothing. -/
def load (session : Playthrough) (file : String) : m Reply := do
  match ← FileAccess.read file with
  | .error fault => return .goOn [errorLine fault.message] session
  | .ok text =>
      match Notation.readAs (Snapshot × Variables) text with
      | .error fault => return .goOn [errorLine (StoryError.unreadable fault).message] session
      | .ok (snapshot, state) => return takeUp session snapshot state

/-- Sets a variable to what an input stands for. -/
def setVariable (session : Playthrough) (key input : String) : Reply :=
  let value := Value.ofInput input
  .goOn [s!"{key} = {value.text}"] (session.setState (session.state.set key value))

/-- Answers a command of one or more words. -/
def answer (session : Playthrough) (command : String) (rest : List String) : m Reply := do
  match Text.lowercase command, rest with
  | "quit", _ | "exit", _ | "q", _ => return ⟨["Goodbye."], none⟩
  | "help", _ | "h", _ | "?", _ => return .goOn help session
  | "enter", id :: _ => return .ofMove stepLines (session.enter id)
  | "enter", [] => return .goOn ["Usage: enter <id>"] session
  | "next", _ | "n", _ => return .ofMove stepLines session.advance
  | "choose", rest | "c", rest =>
      match rest.head?.bind Text.Numeral.index? with
      | some index => return .ofMove outcomeLines (session.choose index)
      | none => return .goOn ["Usage: choose <n>"] session
  | "set", key :: first :: others =>
      return setVariable session key (String.intercalate " " (first :: others))
  | "set", _ => return .goOn ["Usage: set <key> <value>"] session
  | "state", _ => return .goOn (stateLines session.state) session
  | "ids", _ => return .goOn (idLines session.store) session
  | "lint", _ => return .goOn (issueLines session.store.validate) session
  | "save", file :: _ => save session file
  | "save", [] => return .goOn ["Usage: save <file>"] session
  | "load", file :: _ => load session file
  | "load", [] => return .goOn ["Usage: load <file>"] session
  | unknown, _ =>
      return .goOn [s!"Unknown command: '{unknown}'. Type 'help' for commands."] session

/-- Answers a line. A line without words has no answer. -/
def respond (session : Playthrough) (line : String) : m Reply := do
  match Text.words line with
  | [] => return .goOn [] session
  | command :: rest => answer session command rest

/-- Starts the shell: the lines it begins with and its session, or how it finished at
once. -/
def start (arguments : List String) : m (Except Finished (List String × Playthrough)) := do
  match arguments with
  | [] | "--help" :: _ | "-h" :: _ => return .error (.ofLines 0 [usage] [])
  | arguments =>
      match Settings.standard.withArguments arguments with
      | .error argument =>
          return .error (.ofLines 1 [usage] ["Unknown argument: " ++ argument])
      | .ok ⟨none, _, _⟩ => return .error (.ofLines 1 [usage] ["Missing --package"])
      | .ok ⟨some path, seed, responsibility⟩ =>
          let bindings : HostBindings Variables := .none
          let sources : Sources :=
            if ← FileAccess.isDirectory path then ⟨[path], [], []⟩ else ⟨[], [path], []⟩
          match ← (sources.build bindings false).run with
          | .error error =>
              let message := s!"ERROR: Failed to load package: {error.message}"
              return .error (.ofLines 1 [] [message])
          | .ok store =>
              let size := Text.Numeral.natural store.size
              let state := Variables.empty.withResponsibility responsibility
              return .ok
                ([s!"Loaded {size} nodes", s!"Seed: {Text.Numeral.natural seed.toNat}",
                    "Type 'help' for commands.", ""],
                  (Session.start store state).seed seed)

/-- Answers lines until one ends the shell or none is left: the text written meanwhile,
with a prompt in front of every answer. -/
def replay : List String → Playthrough → m String
  | [], _ => return prompt
  | line :: lines, session => do
      let reply ← respond session line
      let written := prompt ++ Text.unlines reply.lines
      match reply.session with
      | none => return written
      | some session => return written ++ (← replay lines session)

/-- Runs the shell on a text of commands. -/
def run (arguments : List String) (commands : String) : m Finished := do
  match ← start arguments with
  | .error finished => return finished
  | .ok (lines, session) =>
      return ⟨0, Text.unlines lines ++ (← replay (Text.lines commands) session), ""⟩

end BranchingStory.Shell
