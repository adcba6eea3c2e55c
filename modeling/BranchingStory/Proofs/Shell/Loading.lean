import BranchingStory.Proofs.Preview.Refusal
import BranchingStory.Proofs.Preview.Saves
import BranchingStory.Shell.Basic

/-!
# Loads that fail

A shell that cannot read a file, or cannot read what is in it, goes on as before.  Where the
position in the file is refused it goes on from the position that it had, but with the variables
of the file, and with the shuffle state of the file if there is one.

A preview does otherwise with the same save: it has no position then.  In neither of them is
everything as it was before the load.
-/

namespace BranchingStory

open Files

namespace Shell

variable {session after : Playthrough} {found : Except Fault String} {message : String}

/-- The answer to a load by what was found in the file. -/
def loaded (session : Playthrough) : Except Fault String → Reply
  | .error fault => .goOn [errorLine fault.message] session
  | .ok text =>
      match Notation.readAs (Snapshot × Variables) text with
      | .error fault => .goOn [errorLine (StoryError.unreadable fault).message] session
      | .ok (snapshot, state) => takeUp session snapshot state

section

variable {m : Type → Type} [Monad m] [FileAccess m]

theorem load_eq (session : Playthrough) (file : String) :
    (load session file : m Reply) =
      FileAccess.read file >>= fun found => pure (loaded session found) := by
  rw [load]
  congr 1
  funext found
  cases found with
  | error fault => rfl
  | ok text =>
      simp only [loaded]
      cases Notation.readAs (Snapshot × Variables) text <;> rfl

/-- The word for the command may be written with capital letters, and what follows the name of
the file is not looked at. -/
theorem respond_load (session : Playthrough) {line command file : String} {rest : List String}
    (words : Text.words line = command :: file :: rest)
    (named : Text.lowercase command = "load") :
    (respond session line : m Reply) =
      FileAccess.read file >>= fun found => pure (loaded session found) := by
  rw [← load_eq, respond, words]
  simp only
  -- The equations of `answer` say of each command that it is none of those before.
  unfold answer
  rw [named]
  rfl

end

/-- In a file tree a load only reads. -/
theorem load_run (session : Playthrough) (files : FileTree) (file : String) :
    (load session file : StateM FileTree Reply).run files =
      (loaded session (files.read file), files) := by
  rw [load_eq]
  rfl

/-! ## Errors as lines -/

theorem goOn_errorLine_inj {other : String} {next : Playthrough}
    (same : Reply.goOn [errorLine message] session = .goOn [errorLine other] next) :
    message = other ∧ session = next := by
  have lines := congrArg Reply.lines same
  have sessions := congrArg Reply.session same
  simp only [Reply.goOn, List.cons.injEq, and_true] at lines
  exact ⟨(String.append_right_inj _).1 lines, Option.some.inj sessions⟩

theorem errorLine_ne_of_head {line : String} (head : line.toList.head? ≠ some 'E') :
    line ≠ errorLine message := by
  intro same
  rw [same, errorLine, String.toList_append] at head
  contradiction

/-- A step is shown below an empty line. -/
theorem exists_stepLines_eq (step : Step) : ∃ rest, stepLines step = "" :: rest := by
  cases step with
  | line dialogue index line => exact ⟨_, rfl⟩
  | choice offered options => exact ⟨_, rfl⟩
  | event id report =>
      cases fired : report.fired with
      | true => exact ⟨_, by rw [stepLines, if_pos fired]⟩
      | false => exact ⟨_, by rw [stepLines, if_neg (by simp [fired])]⟩
  | completed => exact ⟨_, rfl⟩
  | transition target => exact ⟨_, rfl⟩

theorem stepLines_ne_errorLine (step : Step) : stepLines step ≠ [errorLine message] := by
  have ⟨rest, starts⟩ := exists_stepLines_eq step
  intro same
  rw [starts] at same
  exact errorLine_ne_of_head (by decide) (List.cons.inj same).1

/-! ## Loading -/

/-- A shell with the variables of a save, and with its shuffle state if there is one. -/
def overwritten (session : Playthrough) (snapshot : Snapshot) (state : Variables) :
    Playthrough :=
  { session with state, shuffle := snapshot.shuffle.getD session.shuffle }

/-- Why a shell refuses to load what was found in a file, and how it goes on. -/
inductive Refuses (session : Playthrough) : Except Fault String → String → Playthrough → Prop where
  | unread (fault : Fault) : Refuses session (.error fault) fault.message session
  | unreadable {text : String} {fault : Notation.Fault}
      (lost : Notation.readAs (Snapshot × Variables) text = .error fault) :
      Refuses session (.ok text) (StoryError.unreadable fault).message session
  | unfit {text id : String} {snapshot : Snapshot} {state : Variables} {error : StoryError}
      (read : Notation.readAs (Snapshot × Variables) text = .ok (snapshot, state))
      (named : snapshot.node = some id)
      (unfit : session.store.Unfit id snapshot.line error) :
      Refuses session (.ok text) error.message (overwritten session snapshot state)

theorem takeUp_of_unfit {snapshot : Snapshot} {state : Variables} {id : String}
    {error : StoryError} (named : snapshot.node = some id)
    (unfit : session.store.Unfit id snapshot.line error) :
    takeUp session snapshot state =
      .goOn [errorLine error.message] (overwritten session snapshot state) := by
  have refused : (session.setState state).restore snapshot = _ :=
    Session.restore_of_unfit named unfit
  rw [takeUp, refused]
  rfl

theorem loaded_of_read {text : String} {snapshot : Snapshot} {state : Variables}
    (read : Notation.readAs (Snapshot × Variables) text = .ok (snapshot, state)) :
    loaded session (.ok text) = takeUp session snapshot state := by
  simp only [loaded, read]

/-- A snapshot that is taken up is not answered by an error. -/
theorem unfit_of_takeUp {snapshot : Snapshot} {state : Variables}
    (failed : takeUp session snapshot state = .goOn [errorLine message] after) :
    ∃ error id, snapshot.node = some id ∧ session.store.Unfit id snapshot.line error := by
  have lines := congrArg Reply.lines failed
  cases restored : ((session.setState state).restore snapshot).1 with
  | error error =>
      have ⟨id, named, unfit⟩ := Session.exists_unfit_of_restore restored
      exact ⟨error, id, named, unfit⟩
  | ok shown =>
      simp only [takeUp, Reply.ofMove, Reply.goOn, restored, resultLines] at lines
      cases shown with
      | none =>
          have same := (List.cons.inj lines).1
          exact absurd same (errorLine_ne_of_head (by decide))
      | some step => exact absurd lines (stepLines_ne_errorLine step)

/-- A load is answered by an error exactly for these reasons, and the shell goes on exactly
like this. -/
theorem loaded_error_iff :
    loaded session found = .goOn [errorLine message] after ↔
      Refuses session found message after := by
  constructor
  · intro failed
    cases found with
    | error fault =>
        have ⟨said, same⟩ := goOn_errorLine_inj failed
        rw [← said, ← same]
        exact .unread fault
    | ok text =>
        cases read : Notation.readAs (Snapshot × Variables) text with
        | error fault =>
            simp only [loaded, read] at failed
            have ⟨said, same⟩ := goOn_errorLine_inj failed
            rw [← said, ← same]
            exact .unreadable read
        | ok save =>
            have ⟨snapshot, state⟩ := save
            rw [loaded_of_read read] at failed
            have ⟨error, id, named, unfit⟩ := unfit_of_takeUp failed
            rw [takeUp_of_unfit named unfit] at failed
            have ⟨said, same⟩ := goOn_errorLine_inj failed
            rw [← said, ← same]
            exact .unfit read named unfit
  · intro refuses
    cases refuses with
    | unread fault => rfl
    | unreadable lost => simp only [loaded, lost]
    | unfit read named unfit => rw [loaded_of_read read, takeUp_of_unfit named unfit]

theorem overwritten_eq_self_iff {snapshot : Snapshot} {state : Variables} :
    overwritten session snapshot state = session ↔
      state = session.state ∧ snapshot.shuffle.getD session.shuffle = session.shuffle := by
  constructor
  · intro same
    exact ⟨congrArg Session.state same, congrArg Session.shuffle same⟩
  · intro ⟨sameState, sameShuffle⟩
    rw [overwritten, sameState, sameShuffle]

/-- A failed load changes nothing exactly where the file, if it could be read, has the variables
of the session, and no shuffle state but that of the session. -/
theorem Refuses.eq_iff (refuses : Refuses session found message after) :
    after = session ↔ ∀ text snapshot state, found = .ok text →
      Notation.readAs (Snapshot × Variables) text = .ok (snapshot, state) →
        state = session.state ∧ snapshot.shuffle.getD session.shuffle = session.shuffle := by
  cases refuses with
  | unread fault =>
      constructor
      · intro _ text snapshot state readable
        contradiction
      · intro _
        rfl
  | unreadable lost =>
      constructor
      · intro _ text snapshot state readable read
        cases readable
        rw [lost] at read
        contradiction
      · intro _
        rfl
  | unfit read named unfit =>
      rw [overwritten_eq_self_iff]
      constructor
      · intro same text snapshot state readable also
        cases readable
        rw [read] at also
        cases also
        exact same
      · intro same
        exact same _ _ _ rfl read

end Shell

/-- Why loads fail and what they leave.  A text that cannot be read changes nothing, in a preview
or in a shell.  A save whose position is refused leaves its variables; the preview is then at no
node, and the shell where it was.  So a failed load changes nothing exactly where nothing could
be read or everything that is taken over was there before. -/
theorem failed_load_leaves (m : Type → Type) [Monad m] [FileAccess m] (preview : Preview)
    (session : Shell.Playthrough) :
    (∀ (text : String) (error : PreviewError) (after : Preview),
      (preview.load text = (.error error, after) ↔ preview.Refuses text error after) ∧
      (preview.Refuses text error after →
        (after = preview ↔ ∀ save, Save.ofText? text = some save →
          save.state = preview.state ∧
            Preview.resting preview.seed save.snapshot.shuffle = preview.snapshot))) ∧
    (∀ (line command file : String) (rest : List String),
      Text.words line = command :: file :: rest → Text.lowercase command = "load" →
        (Shell.respond session line : m Shell.Reply) =
          FileAccess.read file >>= fun found => pure (Shell.loaded session found)) ∧
    ∀ (found : Except Fault String) (message : String) (after : Shell.Playthrough),
      (Shell.loaded session found = .goOn [Shell.errorLine message] after ↔
        Shell.Refuses session found message after) ∧
      (Shell.Refuses session found message after →
        (after = session ↔ ∀ text snapshot state, found = .ok text →
          Notation.readAs (Snapshot × Variables) text = .ok (snapshot, state) →
            state = session.state ∧
              snapshot.shuffle.getD session.shuffle = session.shuffle)) := by
  refine ⟨?preview, ?command, ?shell⟩
  case preview =>
    intro text error after
    exact ⟨Preview.load_error_iff, fun refuses => refuses.eq_iff⟩
  case command =>
    intro line command file rest words named
    exact Shell.respond_load session words named
  case shell =>
    intro found message after
    exact ⟨Shell.loaded_error_iff, fun refuses => refuses.eq_iff⟩

namespace Sample

/-- The text of a save that names a node which is nowhere, with a variable. -/
def atticSave : String :=
  "\x7b\"snapshot\":\x7b\"node\":\"attic\"\x7d," ++
    "\"state\":\x7b\"vars\":\x7b\"gold\":\x7b\"Int\":1\x7d\x7d\x7d\x7d"

/-- The same save as a shell would have it in a file. -/
def atticFile : String := "((node:Some(\"attic\")),(vars:\x7b\"gold\":Int(1)\x7d))"

def shelf : FileTree := .directory [("attic.ron", .file atticFile)]

theorem readAs_atticFile :
    ∃ state : Variables,
      Notation.readAs (Snapshot × Variables) atticFile =
        .ok (⟨some "attic", none, none⟩, state) ∧
      Shell.stateLines state = ["  gold = 1"] := by
  have computed : (Notation.readAs (Snapshot × Variables) atticFile).toOption.map
      (fun save => (save.1, Shell.stateLines save.2)) =
        some (⟨some "attic", none, none⟩, ["  gold = 1"]) := by
    decide +kernel
  cases read : Notation.readAs (Snapshot × Variables) atticFile with
  | error fault =>
      rw [read] at computed
      contradiction
  | ok save =>
      have ⟨snapshot, state⟩ := save
      rw [read] at computed
      have ⟨places, lines⟩ := Prod.mk.inj (Option.some.inj computed)
      simp only at places lines
      rw [places]
      exact ⟨state, rfl, lines⟩

end Sample

/-- Notes that are no saves: a preview and a shell go on from where they were. -/
theorem failed_load_leaves_notice :
    ∃ preview, Preview.ofPackageText Preview.dockText 7 = .ok preview ∧
      let standing := (preview.reply (.enter "dock")).2
      let session := ((Session.start Sample.store .empty).seed 5).after [.enter "dock"]
      standing.load "Gone fishing." = (.error .saveUnreadable, standing) ∧
      ((Shell.respond session "Load notice.ron" : StateM FileTree Shell.Reply).run
        Sample.shelf).1 = .goOn [Shell.errorLine Fault.notFound.message] session := by
  have ⟨preview, accepted, _⟩ := Preview.exists_of_toOption
    (show (Preview.ofPackageText Preview.dockText 7).toOption.map (fun _ => ()) = some () by
      decide +kernel)
  refine ⟨preview, accepted, ?_⟩
  intro standing session
  have ⟨previewed, commanded, refused⟩ :=
    failed_load_leaves (StateM FileTree) standing session
  have lost : Save.ofText? "Gone fishing." = none := by decide +kernel
  have words : Text.words "Load notice.ron" = ["Load", "notice.ron"] := by decide +kernel
  have named : Text.lowercase "Load" = "load" := by decide +kernel
  constructor
  · exact (previewed _ _ _).1.2 (.unreadable lost)
  · rw [commanded _ _ _ _ words named]
    exact (refused (.error .notFound) _ _).1.2 (.unread .notFound)

/-- A save that names a node which is nowhere changes the variables: what a preview then shows
and saves is not what it would have been, and neither is what a shell shows and saves. -/
theorem failed_load_leaves_attic :
    (¬∀ (text : String) (seed : UInt64) (first reached : Preview),
      Preview.ofPackageText text seed = .ok first → first.LeadsTo reached →
      ∀ saved : String, (∃ error, (reached.load saved).1 = .error error) →
        (reached.load saved).2.stateJson = reached.stateJson ∧
        (reached.load saved).2.save = reached.save ∧
        ∀ calls, (reached.load saved).2.replies calls = reached.replies calls) ∧
    ¬∀ session : Session Variables, session.ReachedIn Sample.store →
      ∀ (files : FileTree) (file message : String) (after : Shell.Playthrough),
        ((Shell.load session file : StateM FileTree Shell.Reply).run files).1 =
          .goOn [Shell.errorLine message] after →
        Shell.stateLines after.state = Shell.stateLines session.state ∧
        Shell.saveText after = Shell.saveText session := by
  constructor
  · intro unchanged
    have ⟨first, accepted, seen⟩ := Preview.exists_of_toOption
      (show (Preview.ofPackageText Preview.dockText 7).toOption.map (fun first =>
        let standing := (first.reply (.enter "dock")).2
        ((standing.load Sample.atticSave).1.toBool,
          ((standing.load Sample.atticSave).2.state.toList, standing.state.toList))) =
          some (false, ([("gold", .int 1)], [])) by
        decide +kernel)
    have ⟨refused, states⟩ := Prod.mk.inj seen
    have ⟨taken, before⟩ := Prod.mk.inj states
    have failed : ∃ error, ((first.reply (.enter "dock")).2.load Sample.atticSave).1 =
        .error error := by
      cases loaded : ((first.reply (.enter "dock")).2.load Sample.atticSave).1 with
      | error error => exact ⟨error, rfl⟩
      | ok step =>
          rw [loaded] at refused
          cases refused
    have shown := (unchanged _ _ _ _ accepted (.call .here (.enter "dock")) _ failed).1
    rw [Preview.stateJson, Preview.stateJson, taken, before] at shown
    exact List.cons_ne_nil _ _ (Json.array.inj shown)
  · intro unchanged
    have ⟨state, read, lines⟩ := Sample.readAs_atticFile
    let session := ((Session.start Sample.store .empty).seed 5).after [.enter "dock"]
    have reached : session.ReachedIn Sample.store := ⟨.empty, 5, [.enter "dock"], rfl⟩
    have nowhere : session.store.Unfit "attic" none (.notFound .node "attic") := .missing rfl
    have stored : Sample.shelf.read "attic.ron" = .ok Sample.atticFile := rfl
    have answered := congrArg Prod.fst (Shell.load_run session Sample.shelf "attic.ron")
    rw [stored, Shell.loaded_of_read read, Shell.takeUp_of_unfit rfl nowhere] at answered
    have shown := (unchanged session reached _ _ _ _ answered).1
    have before : Shell.stateLines session.state = ["  (no variables)"] := rfl
    have gold : Shell.stateLines state = ["  (no variables)"] := shown.trans before
    rw [lines] at gold
    exact absurd gold (by decide)

end BranchingStory
