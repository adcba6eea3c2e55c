import BranchingStory.Markup
import BranchingStory.Session.Basic
import BranchingStory.Validation.Check

/-!
# What the shell shows

Steps, outcomes, variables, ids and issues as lines of text.
-/

namespace BranchingStory.Shell

open Validation

/-- The cues of a dialogue line that are set, as settings by name. -/
def cues (line : DialogueLine) : List String :=
  (if line.effect.isEmpty then [] else ["effect=" ++ line.effect]) ++
    (line.image.map ("image=" ++ ·)).toList ++
    (line.sound.map ("sound=" ++ ·)).toList ++
    (line.cutscene.map ("cutscene=" ++ ·)).toList

/-- Indices in brackets. -/
def indexList (indices : List Nat) : String :=
  "[" ++ String.intercalate ", " (indices.map Text.Numeral.natural) ++ "]"

/-- A step, below an empty line. -/
def stepLines : Step → List String
  | .line dialogue index line =>
      let number := Text.Numeral.natural index
      let cues := cues line
      ["", s!"[{dialogue} #{number}] {line.speaker}: {Markup.format line.text}"] ++
        (if cues.isEmpty then [] else ["  (" ++ String.intercalate ", " cues ++ ")"])
  | .choice choice options =>
      ["", s!"[{choice.id}]"] ++
        (if options.isEmpty then ["  (no options open at this responsibility)"] else []) ++
        options.map fun option =>
          s!"  {Text.Numeral.natural option.index}) {Markup.format option.line.text}"
  | .event id report =>
      if report.fired then ["", s!"[{id}] fired, applied effects {indexList report.applied}"]
      else ["", s!"[{id}] conditions not met"]
  | .completed => ["", "(dialogue complete)"]
  | .transition target =>
      ["", s!"(dialogue continues at '{target}'; use 'enter {target}')"]

/-- What taking an option led to. -/
def outcomeLines (outcome : Outcome) : List String :=
  let tag := outcome.classification.tag
  let word := if tag.isEmpty then "neutral" else tag
  [s!"  -> {outcome.next} [{word}]"] ++
    (outcome.tutorialSkip.map fun step =>
      s!"  (tutorial skips to step {Text.Numeral.natural step})").toList ++
    (if isTerminal outcome.next then []
      else [s!"  Use 'enter {outcome.next}' to continue."])

/-- An error as a line. -/
def errorLine (message : String) : String := "ERROR: " ++ message

/-- The variables of a player, one a line. -/
def stateLines (state : Variables) : List String :=
  (if state.isEmpty then ["  (no variables)"] else []) ++
    state.toList.map fun (key, value) => s!"  {key} = {value.text}"

/-- A text filled up with blanks to a width. -/
def padded (width : Nat) (text : String) : String :=
  text ++ String.ofList (List.replicate (width - text.length) ' ')

/-- The ids of a store, one a line, with their kinds in front. -/
def idLines {σ : Type} (store : Store σ) : List String :=
  store.ids.map fun (id, kind) => s!"  {padded 10 kind.text} {id}"

/-- How much an issue matters, in a word. -/
def severityWord : Severity → String
  | .warning => "Warning"
  | .error => "Error"

/-- The issues of a story, one a line. -/
def issueLines (issues : List Issue) : List String :=
  if issues.isEmpty then ["All checks passed!"]
  else issues.map fun issue => s!"  {severityWord issue.severity}: {issue.text}"

end BranchingStory.Shell
