import BranchingStory.Preview.Basic
import BranchingStory.Proofs.Session.Refusal

/-!
# Saves that a preview refuses

A text that is no save is refused before anything is written.  A save is refused where its
position is not one of the story.  By then its variables have been taken over, and the position
that the preview had is gone: what is left is the player of the save at no node.
-/

namespace BranchingStory.Preview

variable {preview after : Preview} {text : String} {save : Save} {error : PreviewError}

/-- What is kept of a playthrough that stands at no node, for a shuffle state that was carried
or else the one that a seed begins with. -/
def resting (seed : UInt64) (carried : Option ShuffleState) : Snapshot :=
  ⟨none, none, some (carried.getD (.start seed))⟩

/-- A preview with the variables of a save and at no node. -/
def stranded (preview : Preview) (save : Save) : Preview :=
  { preview with
    state := save.state
    snapshot := resting preview.seed save.snapshot.shuffle }

/-- Why a preview refuses to load a text, and what it is afterwards. -/
inductive Refuses (preview : Preview) (text : String) : PreviewError → Preview → Prop where
  | unreadable (lost : Save.ofText? text = none) :
      Refuses preview text .saveUnreadable preview
  | unfit {save : Save} {id : String} {error : StoryError}
      (read : Save.ofText? text = some save) (named : save.snapshot.node = some id)
      (unfit : preview.store.Unfit id save.snapshot.line error) :
      Refuses preview text (.callRefused error) (preview.stranded save)

/-- A preview that stands at no node makes a move from there. -/
theorem perform_of_idle {α : Type} (idle : preview.snapshot.node = none)
    (move : Session Variables → Except StoryError α × Session Variables) :
    preview.perform move =
      let moved := move ⟨preview.store, preview.state,
        preview.snapshot.shuffle.getD (.start preview.seed), .idle⟩
      (moved.1.mapError .callRefused,
        { preview with state := moved.2.state, snapshot := moved.2.snapshot }) := by
  rw [perform, Session.restore_of_idle _ idle]
  rfl

/-- The session in which the position of a save is taken up. -/
def receiving (preview : Preview) (save : Save) : Session Variables :=
  ⟨preview.store, save.state, save.snapshot.shuffle.getD (.start preview.seed), .idle⟩

theorem load_of_read (read : Save.ofText? text = some save) :
    preview.load text =
      let restored := (preview.receiving save).restore save.snapshot
      ((restored.1.mapError .callRefused).map fun step => (step.map Step.json).getD .null,
        { preview with state := restored.2.state, snapshot := restored.2.snapshot }) := by
  rw [load, read]
  simp only
  rw [perform_of_idle rfl]
  rfl

theorem load_of_unfit {id : String} {error : StoryError}
    (read : Save.ofText? text = some save) (named : save.snapshot.node = some id)
    (unfit : preview.store.Unfit id save.snapshot.line error) :
    preview.load text = (.error (.callRefused error), preview.stranded save) := by
  have refused : (preview.receiving save).restore save.snapshot = _ :=
    Session.restore_of_unfit named unfit
  -- The shuffle state of the save is taken over twice.
  have carried : save.snapshot.shuffle.getD (preview.receiving save).shuffle =
      save.snapshot.shuffle.getD (.start preview.seed) := by
    rw [receiving]
    cases save.snapshot.shuffle <;> rfl
  rw [load_of_read read, refused]
  simp only [carried]
  rfl

/-- A load fails exactly for these reasons and leaves exactly this. -/
theorem load_error_iff :
    preview.load text = (.error error, after) ↔ preview.Refuses text error after := by
  constructor
  · intro failed
    cases read : Save.ofText? text with
    | none =>
        rw [load, read] at failed
        cases failed
        exact .unreadable read
    | some save =>
        rw [load_of_read read] at failed
        cases restored : ((preview.receiving save).restore save.snapshot).1 with
        | ok step =>
            simp only [restored] at failed
            cases failed
        | error refused =>
            obtain ⟨id, named, unfit⟩ := Session.exists_unfit_of_restore restored
            have loaded := load_of_unfit read named unfit
            rw [load_of_read read, failed] at loaded
            cases loaded
            exact .unfit read named unfit
  · intro refuses
    cases refuses with
    | unreadable lost => rw [load, lost]
    | unfit read named unfit => exact load_of_unfit read named unfit

theorem stranded_eq_self_iff :
    preview.stranded save = preview ↔
      save.state = preview.state ∧
        resting preview.seed save.snapshot.shuffle = preview.snapshot := by
  constructor
  · intro same
    exact ⟨congrArg Preview.state same, congrArg Preview.snapshot same⟩
  · intro ⟨state, snapshot⟩
    rw [stranded, state, snapshot]

/-- A failed load changes nothing exactly where the save, if it could be read, has the variables
of the preview, and the preview stands at no node with the shuffle state that it takes over. -/
theorem Refuses.eq_iff (refuses : preview.Refuses text error after) :
    after = preview ↔ ∀ save, Save.ofText? text = some save →
      save.state = preview.state ∧
        resting preview.seed save.snapshot.shuffle = preview.snapshot := by
  cases refuses with
  | unreadable lost =>
      constructor
      · intro _ save read
        rw [lost] at read
        contradiction
      · intro _
        rfl
  | unfit read named unfit =>
      rw [stranded_eq_self_iff]
      constructor
      · intro same other also
        rw [read] at also
        cases also
        exact same
      · intro same
        exact same _ read

end BranchingStory.Preview
