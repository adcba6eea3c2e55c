import BranchingStory.Choice.Resolver
import BranchingStory.Notation.Notated
import BranchingStory.Package
import BranchingStory.Session.Basic

/-!
# The record notation of stories

The shapes of everything that is written in package files and in saves, with the names
of records, fields and cases, and with what stands in for a field that is left out.
-/

namespace BranchingStory

open Notation

/-- The value of a field among the fields of a datum. -/
def fieldAs? {α : Type} [Notated α] (name : String) (fields : List (String × Datum)) :
    Option α :=
  (lookUp name fields).bind ofDatum?

instance {α : Type} [Notated α] : Notated (Table α) where
  shape := .table (Notated.shape α)
  toDatum table := .table (table.toList.map fun entry => (entry.1, toDatum entry.2))
  ofDatum?
    | .table entries =>
        (entries.mapM fun (entry : String × Datum) =>
          (ofDatum? entry.2).map fun (value : α) => (entry.1, value)).map Table.ofEntries
    | _ => none

instance : Notated Value where
  shape := .alternative "Value"
    [.holding "String" .text, .holding "Float" .float,
      .holding "Int" (.integer .int64), .holding "Bool" .truth]
  toDatum
    | .string text => .holding "String" (.text text)
    | .float number => .holding "Float" (.float number)
    | .int number => .holding "Int" (toDatum number)
    | .bool truth => .holding "Bool" (.truth truth)
  ofDatum?
    | .holding "String" (.text text) => some (.string text)
    | .holding "Float" (.float number) => some (.float number)
    | .holding "Int" datum => (ofDatum? datum).map .int
    | .holding "Bool" (.truth truth) => some (.bool truth)
    | _ => none

instance : Notated Classification where
  shape := .text
  toDatum classification := .text classification.tag
  ofDatum? datum := (ofDatum? datum).map Classification.mk

instance : Notated Logic where
  shape := .text
  toDatum logic := .text logic.tag
  ofDatum? datum := (ofDatum? datum).map Logic.ofTag

instance : Notated Mode where
  shape := .text
  toDatum mode := .text mode.tag
  ofDatum? datum := (ofDatum? datum).map Mode.ofTag

instance : Notated DialogueLine where
  shape := .record "DialogueLine"
    [.defaulting "key" (.optional .text) .absent,
      .required "speaker" .text,
      .required "text" .text,
      .defaulting "effect" .text (.text ""),
      .defaulting "image" (.optional .text) .absent,
      .defaulting "sound" (.optional .text) .absent,
      .defaulting "cutscene" (.optional .text) .absent,
      .defaulting "next" .text (.text "")]
  toDatum line := .record
    [("key", toDatum line.key), ("speaker", toDatum line.speaker),
      ("text", toDatum line.text), ("effect", toDatum line.effect),
      ("image", toDatum line.image), ("sound", toDatum line.sound),
      ("cutscene", toDatum line.cutscene), ("next", toDatum line.next)]
  ofDatum?
    | .record fields => do
        let key ← fieldAs? "key" fields
        let speaker ← fieldAs? "speaker" fields
        let text ← fieldAs? "text" fields
        let effect ← fieldAs? "effect" fields
        let image ← fieldAs? "image" fields
        let sound ← fieldAs? "sound" fields
        let cutscene ← fieldAs? "cutscene" fields
        let next ← fieldAs? "next" fields
        return ⟨key, speaker, text, effect, image, sound, cutscene, next⟩
    | _ => none

instance : Notated Dialogue where
  shape := .record "Dialogue"
    [.required "id" .text,
      .defaulting "entry" (.optional .text) .absent,
      .required "lines" (Notated.shape (List DialogueLine))]
  toDatum dialogue := .record
    [("id", toDatum dialogue.id), ("entry", toDatum dialogue.entry),
      ("lines", toDatum dialogue.lines)]
  ofDatum?
    | .record fields => do
        let id ← fieldAs? "id" fields
        let entry ← fieldAs? "entry" fields
        let lines ← fieldAs? "lines" fields
        return ⟨id, entry, lines⟩
    | _ => none

instance : Notated ChoiceLine where
  shape := .record "ChoiceLine"
    [.required "text" .text,
      .required "next" .text,
      .defaulting "classification" .text (.text ""),
      .defaulting "tutorial_skip" (.integer .int32) (.integer (-1)),
      .defaulting "min_responsibility" (.integer .int64) (.integer 0)]
  toDatum line := .record
    [("text", toDatum line.text), ("next", toDatum line.next),
      ("classification", toDatum line.classification),
      ("tutorial_skip", toDatum line.tutorialSkip),
      ("min_responsibility", toDatum line.minResponsibility)]
  ofDatum?
    | .record fields => do
        let text ← fieldAs? "text" fields
        let next ← fieldAs? "next" fields
        let classification ← fieldAs? "classification" fields
        let tutorialSkip ← fieldAs? "tutorial_skip" fields
        let minResponsibility ← fieldAs? "min_responsibility" fields
        return ⟨text, next, classification, tutorialSkip, minResponsibility⟩
    | _ => none

instance : Notated Choice where
  shape := .record "Choice"
    [.required "id" .text, .required "lines" (Notated.shape (List ChoiceLine))]
  toDatum choice := .record [("id", toDatum choice.id), ("lines", toDatum choice.lines)]
  ofDatum?
    | .record fields => do
        return ⟨← fieldAs? "id" fields, ← fieldAs? "lines" fields⟩
    | _ => none

instance : Notated Outcome where
  shape := .record "ChoiceOutcome"
    [.required "next" .text,
      .optional "tutorial_skip" (.integer .word64),
      .required "classification" .text]
  toDatum outcome := .record
    [("next", toDatum outcome.next), ("tutorial_skip", toDatum outcome.tutorialSkip),
      ("classification", toDatum outcome.classification)]
  ofDatum?
    | .record fields => do
        let next ← fieldAs? "next" fields
        let tutorialSkip ← fieldAs? "tutorial_skip" fields
        let classification ← fieldAs? "classification" fields
        return ⟨next, tutorialSkip, classification⟩
    | _ => none

namespace ConditionRule

/-- A condition as a datum. -/
def datum : ConditionRule → Datum
  | .flag key => .having "Flag" [("key", .text key)]
  | .equals key value => .having "Equals" [("key", .text key), ("value", toDatum value)]
  | .atLeast key threshold =>
      .having "AtLeast" [("key", .text key), ("value", toDatum threshold)]
  | .atMost key threshold =>
      .having "AtMost" [("key", .text key), ("value", toDatum threshold)]
  | .not rule => .holding "Not" rule.datum
  | .host name => .holding "Host" (.text name)

/-- The condition of a datum. -/
def ofDatum? : Datum → Option ConditionRule
  | .having "Flag" fields => (fieldAs? "key" fields).map .flag
  | .having "Equals" fields => do
      return .equals (← fieldAs? "key" fields) (← fieldAs? "value" fields)
  | .having "AtLeast" fields => do
      return .atLeast (← fieldAs? "key" fields) (← fieldAs? "value" fields)
  | .having "AtMost" fields => do
      return .atMost (← fieldAs? "key" fields) (← fieldAs? "value" fields)
  | .holding "Not" datum => (ofDatum? datum).map .not
  | .holding "Host" (.text name) => some (.host name)
  | _ => none

end ConditionRule

instance : Notated ConditionRule where
  shape := .alternative "ConditionDef"
    [.having "Flag" [.required "key" .text],
      .having "Equals" [.required "key" .text, .required "value" (Notated.shape Value)],
      .having "AtLeast" [.required "key" .text, .required "value" (.integer .int64)],
      .having "AtMost" [.required "key" .text, .required "value" (.integer .int64)],
      .holding "Not" .enclosing,
      .holding "Host" .text]
  toDatum := ConditionRule.datum
  ofDatum? := ConditionRule.ofDatum?

instance : Notated EffectRule where
  shape := .alternative "EffectDef"
    [.having "Set" [.required "key" .text, .required "value" (Notated.shape Value)],
      .having "Add" [.required "key" .text, .required "amount" (.integer .int64)],
      .having "Toggle" [.required "key" .text],
      .holding "Host" .text]
  toDatum
    | .set key value => .having "Set" [("key", .text key), ("value", toDatum value)]
    | .add key amount => .having "Add" [("key", .text key), ("amount", toDatum amount)]
    | .toggle key => .having "Toggle" [("key", .text key)]
    | .host name => .holding "Host" (.text name)
  ofDatum?
    | .having "Set" fields => do
        return .set (← fieldAs? "key" fields) (← fieldAs? "value" fields)
    | .having "Add" fields => do
        return .add (← fieldAs? "key" fields) (← fieldAs? "amount" fields)
    | .having "Toggle" fields => (fieldAs? "key" fields).map .toggle
    | .holding "Host" (.text name) => some (.host name)
    | _ => none

instance : Notated DialogueBody where
  shape := .record "Dialogue"
    [.defaulting "entry" (.optional .text) .absent,
      .required "lines" (Notated.shape (List DialogueLine))]
  toDatum body := .record [("entry", toDatum body.entry), ("lines", toDatum body.lines)]
  ofDatum?
    | .record fields => do
        return ⟨← fieldAs? "entry" fields, ← fieldAs? "lines" fields⟩
    | _ => none

instance : Notated ChoiceBody where
  shape := .record "Choice" [.required "lines" (Notated.shape (List ChoiceLine))]
  toDatum body := .record [("lines", toDatum body.lines)]
  ofDatum?
    | .record fields => (fieldAs? "lines" fields).map ChoiceBody.mk
    | _ => none

instance : Notated EventBody where
  shape := .record "Event"
    [.required "logic" .text,
      .defaulting "mode" .text (.text "Sequential"),
      .defaulting "conditions" (Notated.shape (List ConditionRule)) (.list []),
      .defaulting "results" (Notated.shape (List EffectRule)) (.list [])]
  toDatum body := .record
    [("logic", toDatum body.logic), ("mode", toDatum body.mode),
      ("conditions", toDatum body.conditions), ("results", toDatum body.results)]
  ofDatum?
    | .record fields => do
        let logic ← fieldAs? "logic" fields
        let mode ← fieldAs? "mode" fields
        let conditions ← fieldAs? "conditions" fields
        let results ← fieldAs? "results" fields
        return ⟨logic, mode, conditions, results⟩
    | _ => none

instance : Notated Package where
  shape := .record "NarrativePackage"
    [.defaulting "dialogues" (Notated.shape (Table DialogueBody)) (.table []),
      .defaulting "choices" (Notated.shape (Table ChoiceBody)) (.table []),
      .defaulting "events" (Notated.shape (Table EventBody)) (.table [])]
  toDatum package := .record
    [("dialogues", toDatum package.dialogues), ("choices", toDatum package.choices),
      ("events", toDatum package.events)]
  ofDatum?
    | .record fields => do
        let dialogues ← fieldAs? "dialogues" fields
        let choices ← fieldAs? "choices" fields
        let events ← fieldAs? "events" fields
        return ⟨dialogues, choices, events⟩
    | _ => none

instance : Notated Variables where
  shape := .record "VariableStore" [.required "vars" (Notated.shape (Table Value))]
  toDatum state := .record [("vars", toDatum state.table)]
  ofDatum?
    | .record fields => (fieldAs? "vars" fields).map Variables.mk
    | _ => none

instance : Notated ShuffleState where
  shape := .record "ShuffleState"
    [.required "seed" (.integer .word64), .required "draws" (.integer .word64)]
  toDatum shuffle := .record
    [("seed", toDatum shuffle.seed), ("draws", toDatum shuffle.draws)]
  ofDatum?
    | .record fields => do
        return ⟨← fieldAs? "seed" fields, ← fieldAs? "draws" fields⟩
    | _ => none

instance : Notated Snapshot where
  shape := .record "SessionSnapshot"
    [.optional "node" .text,
      .optional "line" (.integer .word64),
      .defaulting "shuffle" (.optional (Notated.shape ShuffleState)) .absent]
  toDatum snapshot := .record
    [("node", toDatum snapshot.node), ("line", toDatum snapshot.line),
      ("shuffle", toDatum snapshot.shuffle)]
  ofDatum?
    | .record fields => do
        let node ← fieldAs? "node" fields
        let line ← fieldAs? "line" fields
        let shuffle ← fieldAs? "shuffle" fields
        return ⟨node, line, shuffle⟩
    | _ => none

end BranchingStory
