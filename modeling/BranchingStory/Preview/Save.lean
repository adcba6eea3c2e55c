import BranchingStory.Json.Datum
import BranchingStory.Notation.Story

/-!
# Saves

A save is a snapshot together with the variables of the player. As JSON text it can be
kept anywhere; numbers that are not finite do not survive there.
-/

namespace BranchingStory

open Notation

/-- A saved position with the variables at that moment. -/
structure Save where
  snapshot : Snapshot
  state : Variables

instance : Notated Save where
  shape := .record "SaveData"
    [.required "snapshot" (Notated.shape Snapshot),
      .required "state" (Notated.shape Variables)]
  toDatum save := .record
    [("snapshot", toDatum save.snapshot), ("state", toDatum save.state)]
  ofDatum?
    | .record fields => do
        return ⟨← fieldAs? "snapshot" fields, ← fieldAs? "state" fields⟩
    | _ => none

namespace Save

/-- The save as JSON text. -/
def text (save : Save) : String := (Json.of .literal save).render

/-- Reads JSON text as a save. -/
def ofText? (text : String) : Option Save :=
  (Json.parse? text).bind (Json.as? .literal Save)

end Save

end BranchingStory
