import BranchingStory.Proofs.Json.Datum
import BranchingStory.Proofs.Notation.Story
import BranchingStory.Proofs.Preview.Refinement

/-!
# Saves of a preview

The text of a save says its snapshot and its variables, as long as every number with a
fraction among them is finite.  Such a save can be loaded in every preview of the same story,
which then has the variables of the saved one and shows what that one had at hand.  A number
that is not finite is written as null, and a save with one is refused.
-/

namespace BranchingStory

open Decimal Notation

/-- Every number with a fraction that the variables hold is finite. -/
def Variables.Finite (state : Variables) : Prop :=
  ∀ key number, state.get? key = some (.float number) → number.isFinite = true

/-! ## The text of a save -/

namespace Save

variable {plain : Binary64 → Prop} {save : Save}

theorem said (addressable : save.snapshot.Addressable)
    (holds : ∀ key value, save.state.get? key = some value → value.Holds plain) :
    Says plain 8 save (toDatum save) := by
  have snapshot : Says plain 6 save.snapshot (toDatum save.snapshot) :=
    (Snapshot.said addressable).mono (by decide)
  have state : Says plain 6 save.state (toDatum save.state) :=
    Variables.said (.refl _) holds
  constructor
  · intro around
    exact .record ⟨rfl, by decide, by decide⟩
      (EachFits.cons (snapshot.fits around) <| .cons (state.fits around) .nil)
  · show (do
      return (⟨← ofDatum? (toDatum save.snapshot), ← ofDatum? (toDatum save.state)⟩ : Save)) =
        some save
    rw [snapshot.returns, state.returns]
    rfl

/-- A save whose numbers are kept is read from its text. -/
theorem ofText?_text (addressable : save.snapshot.Addressable)
    (kept : ∀ key value, save.state.get? key = some value →
      value.Holds Json.FloatForm.literal.Keeps) :
    ofText? save.text = some save :=
  Json.as?_parse?_render (said addressable kept) (by decide)

section Lost

open Json

variable {levels : Nat} {around : Shape} {key : String} {number : Binary64}

theorem toDatum?_float_lost (infinite : number.isFinite = false) :
    toDatum? .literal (levels + 2) around (Notated.shape Value)
      (Json.of .literal (Value.float number)) = none := by
  show (toDatum? .literal (levels + 1) (Notated.shape Value) .float
    (FloatForm.literal.write number)).map (Datum.holding "Float") = none
  have lost : toDatum? .literal (levels + 1) (Notated.shape Value) .float
      (FloatForm.literal.write number) = none :=
    congrArg (Option.map Datum.float) (FloatForm.literal_lost infinite)
  rw [lost]
  rfl

theorem toDatum?_variables_lost {state : Variables}
    (held : state.get? key = some (.float number)) (infinite : number.isFinite = false) :
    toDatum? .literal (levels + 4) around (Notated.shape Variables)
      (Json.of .literal state) = none := by
  have listed : (key, Value.float number) ∈ state.table.toList :=
    Std.ExtTreeMap.mem_toList_iff_getElem?_eq_some.2 held
  have table : toDatum? .literal (levels + 3) around (Notated.shape (Table Value))
      (Json.of .literal state.table) = none := by
    show toDatum? .literal (levels + 3) around (.table (Notated.shape Value))
      (.object (ofFields .literal (state.table.toList.map fun entry =>
        (entry.1, toDatum entry.2)))) = none
    rw [ofFields_eq_map, List.map_map, toDatum?_table,
      mapM_eq_none_of_mem (List.mem_map_of_mem listed)]
    · rfl
    · exact congrArg (Option.map _) (toDatum?_float_lost infinite)
  exact toDatum?_record.trans
    (congrArg (Option.map Datum.record) (fieldsOf_lost List.mem_cons_self rfl table))

end Lost

/-- A save with a number that is not finite cannot be read. -/
theorem ofText?_text_lost (addressable : save.snapshot.Addressable) {key : String}
    {number : Binary64} (held : save.state.get? key = some (.float number))
    (infinite : number.isFinite = false) : ofText? save.text = none := by
  have anySays : Says anyNumber 8 save (toDatum save) :=
    said addressable fun _ _ _ _ _ => trivial
  have printable : (Json.of .literal save).Printable :=
    Json.printable_ofDatum (anySays.fits .enclosing)
  have state : Json.toDatum? .literal 127 .enclosing (Notated.shape Variables)
      (Json.of .literal save.state) = none := toDatum?_variables_lost held infinite
  have record : Json.toDatum? .literal 128 .enclosing (Notated.shape Save)
      (Json.of .literal save) = none :=
    Json.toDatum?_record.trans (congrArg (Option.map Datum.record)
      (Json.fieldsOf_lost (List.mem_cons_of_mem _ List.mem_cons_self) rfl state))
  rw [ofText?, text, Json.parse?_render printable, Option.bind_some, Json.as?]
  exact congrArg (·.bind (ofDatum? : Datum → Option Save)) record

end Save

theorem Session.snapshot_reshuffled (session : Session Variables) (shuffle : ShuffleState) :
    Session.snapshot { session with shuffle } =
      { session.snapshot with shuffle := some shuffle } := by
  unfold Session.snapshot
  cases session.position <;> rfl

/-- Where a session stands does not depend on how far the random orders have been used. -/
theorem Session.Presents.reshuffled {session : Session Variables} {shown : Option Step}
    (shuffle : ShuffleState) (presents : Session.Presents { session with shuffle } shown) :
    session.Presents shown := by
  cases presents with
  | nothing atHand => exact .nothing atHand
  | line inside atHand => exact .line inside atHand
  | choice atHand => exact .choice atHand

namespace Preview

variable {preview other first second : Preview} {session : Session Variables}

/-! ## What a preview can be led to -/

/-- The preview after some calls. -/
def after (preview : Preview) (calls : List Call) : Preview :=
  calls.foldl (fun preview call => (preview.reply call).2) preview

/-- What a page can lead a preview to, with calls of any kind and texts of any kind that are
loaded. -/
inductive LeadsTo (first : Preview) : Preview → Prop where
  | here : LeadsTo first first
  | call {reached : Preview} (before : LeadsTo first reached) (call : Call) :
      LeadsTo first (reached.reply call).2
  | load {reached : Preview} (before : LeadsTo first reached) (text : String) :
      LeadsTo first (reached.load text).2

theorem reply_store (preview : Preview) (call : Call) :
    (preview.reply call).2.store = preview.store := by
  cases call <;> rfl

theorem load_store (preview : Preview) (text : String) :
    (preview.load text).2.store = preview.store := by
  unfold load
  split <;> rfl

/-- The story of a preview never changes. -/
theorem LeadsTo.store_eq {reached : Preview} (led : first.LeadsTo reached) :
    reached.store = first.store := by
  induction led with
  | here => rfl
  | call _ call same => exact (reply_store _ call).trans same
  | load _ text same => exact (load_store _ text).trans same

theorem after_store (preview : Preview) (calls : List Call) :
    (preview.after calls).store = preview.store := by
  induction calls generalizing preview with
  | nil => rfl
  | cons call calls ih => exact (ih _).trans (reply_store preview call)

/-- The seed has no part in what a text is accepted as. -/
theorem ofPackageText_reseeded (text : String) (seed otherSeed : UInt64) :
    ofPackageText text otherSeed =
      (ofPackageText text seed).map fun preview => { preview with seed := otherSeed } := by
  unfold ofPackageText
  cases read : (Package.ofText text).mapError PreviewError.packageUnreadable with
  | error error => rfl
  | ok package =>
      cases built : (Store.ofPackage package (.none : HostBindings Variables) true).mapError
          PreviewError.packageRefused with
      | error error =>
          simp only [bind, Except.bind, built]
          rfl
      | ok store =>
          simp only [bind, Except.bind, built]
          rfl

theorem ofPackageText_store {text : String} {seed otherSeed : UInt64}
    (accepted : ofPackageText text seed = .ok first)
    (also : ofPackageText text otherSeed = .ok second) : second.store = first.store := by
  rw [ofPackageText_reseeded text seed otherSeed, accepted] at also
  cases also
  rfl

theorem Mirrors.after (mirrors : preview.Mirrors session) (calls : List Call) :
    ∃ later, (preview.after calls).Mirrors later := by
  induction calls generalizing preview session with
  | nil => exact ⟨session, mirrors⟩
  | cons call calls ih => exact ih (mirrors.reply call).2

/-- The session in which the next move of a preview is made. -/
def resumed (preview : Preview) : Session Variables :=
  (((Session.start preview.store preview.state).seed preview.seed).restore preview.snapshot).2

theorem Mirrors.resumed_eq (mirrors : preview.Mirrors session) : preview.resumed = session := by
  obtain ⟨shown, restored, _⟩ := mirrors.coherent.restore_of_standsFor
    ((Session.start preview.store preview.state).seed preview.seed)
    mirrors.store mirrors.state mirrors.stands
  rw [resumed, restored]

/-! ## Loading -/

/-- A save that can be read is taken over: what the saved preview had at hand is shown, and
the preview goes on from there, with random orders of its own if none have been used. -/
theorem Mirrors.load_read (mirrors : preview.Mirrors session)
    (sameStore : other.store = preview.store)
    (read : Save.ofText? preview.save = some ⟨preview.snapshot, preview.state⟩) :
    ∃ shown, session.Presents shown ∧
      (other.load preview.save).1 = .ok ((shown.map Step.json).getD .null) ∧
      (other.load preview.save).2.Mirrors
        { session with shuffle := preview.snapshot.shuffle.getD (.start other.seed) } := by
  -- Before the position of the save is taken up, nothing is at hand.
  let prepared : Preview := { other with
    state := preview.state
    snapshot := { Snapshot.empty with shuffle := preview.snapshot.shuffle } }
  let resting : Session Variables :=
    ⟨session.store, session.state, preview.snapshot.shuffle.getD (.start other.seed), .idle⟩
  have waits : prepared.Mirrors resting :=
    ⟨⟨mirrors.coherent.keyed, .idle⟩, sameStore.trans mirrors.store, mirrors.state, rfl, rfl, rfl⟩
  let taken : Session Variables :=
    { session with shuffle := preview.snapshot.shuffle.getD (.start other.seed) }
  have coherent : taken.Coherent := mirrors.coherent.of_frame rfl rfl
  have stands : Session.StandsFor preview.snapshot resting.shuffle taken := by
    have places : taken.snapshot = { session.snapshot with shuffle := some taken.shuffle } :=
      Session.snapshot_reshuffled session _
    refine ⟨?_, ?_, ?_⟩
    · rw [places]
      exact mirrors.stands.node
    · rw [places]
      exact mirrors.stands.line
    · show preview.snapshot.shuffle.getD (preview.snapshot.shuffle.getD (.start other.seed)) =
        preview.snapshot.shuffle.getD (.start other.seed)
      cases preview.snapshot.shuffle <;> rfl
  obtain ⟨shown, restored, presents⟩ :=
    coherent.restore_of_standsFor resting rfl rfl stands
  have loaded : other.load preview.save =
      Preview.showing (fun step => (step.map Step.json).getD .null)
        (prepared.perform fun session => session.restore preview.snapshot) := by
    rw [load, read]
  rw [loaded, waits.perform]
  simp only [Preview.showing, restored]
  exact ⟨shown, presents.reshuffled, rfl, coherent, sameStore.trans mirrors.store, rfl,
    Session.snapshot_standsFor _ _⟩

/-- A save of a preview can be loaded in every preview of the same story, whatever that one
has been led to, if and only if the variables hold no number but finite ones.  Then what the
saved preview had at hand is shown, or null if that was nothing, and its variables are taken
over; otherwise the save is refused and nothing changes.  That finite numbers survive their
text is assumed of those that are held. -/
theorem load_save {text : String} {seed otherSeed : UInt64}
    (accepted : ofPackageText text seed = .ok first) (calls : List Call)
    (also : ofPackageText text otherSeed = .ok second) (led : second.LeadsTo other)
    (addressable : (first.after calls).snapshot.Addressable)
    (survive : ∀ key number, (first.after calls).state.get? key = some (.float number) →
      number.isFinite = true → Json.FloatForm.literal.Keeps number) :
    let saved := first.after calls
    (saved.state.Finite →
      ∃ shown, saved.resumed.Presents shown ∧
        (other.load saved.save).1 = .ok ((shown.map Step.json).getD .null) ∧
        (other.load saved.save).2.state = saved.state ∧
        (other.load saved.save).2.resumed.position = saved.resumed.position) ∧
    (¬saved.state.Finite → other.load saved.save = (.error .saveUnreadable, other)) := by
  intro saved
  obtain ⟨session, mirrors⟩ : ∃ session, saved.Mirrors session :=
    (ofPackageText_mirrors accepted).after calls
  have sameStore : other.store = saved.store :=
    (led.store_eq.trans (ofPackageText_store accepted also)).trans (after_store first calls).symm
  constructor
  · intro finite
    have kept : ∀ key value, saved.state.get? key = some value →
        value.Holds Json.FloatForm.literal.Keeps := by
      rintro key _ held number rfl
      exact survive key number held (finite key number held)
    have read : Save.ofText? saved.save = some ⟨saved.snapshot, saved.state⟩ :=
      Save.ofText?_text addressable kept
    obtain ⟨shown, presents, answered, next⟩ := mirrors.load_read sameStore read
    refine ⟨shown, ?_, answered, next.state.trans mirrors.state.symm, ?_⟩
    · rw [mirrors.resumed_eq]
      exact presents
    · rw [next.resumed_eq, mirrors.resumed_eq]
  · intro notFinite
    obtain ⟨key, notFinite⟩ := Classical.not_forall.1 notFinite
    obtain ⟨number, notFinite⟩ := Classical.not_forall.1 notFinite
    obtain ⟨held, infinite⟩ := Classical.not_imp.1 notFinite
    have lost : Save.ofText? saved.save = none :=
      Save.ofText?_text_lost addressable held (Bool.eq_false_iff.2 infinite)
    rw [load, lost]

/-- A dialogue of one line. -/
def dockText : String :=
  "(dialogues:\x7b\"dock\":(lines:[(speaker:\"\",text:\"Up\",next:\"END\")])\x7d)"

/-- Calls that set a number with a fraction and a text with quotes. -/
def dockCalls : List Call :=
  [.setVariable "tide" "2.5", .setVariable "name" "\"Mara\"\n", .enter "dock"]

/-- What can be computed of an accepted text holds of the preview that it gives. -/
theorem exists_of_toOption {text : String} {seed : UInt64} {β : Type} {seen : Preview → β}
    {value : β} (computed : (ofPackageText text seed).toOption.map seen = some value) :
    ∃ preview, ofPackageText text seed = .ok preview ∧ seen preview = value := by
  cases accepted : ofPackageText text seed with
  | error error =>
      rw [accepted] at computed
      contradiction
  | ok preview =>
      rw [accepted] at computed
      exact ⟨preview, rfl, Option.some.inj computed⟩

/-- The save of a preview that stands at a line is loaded by another one that has refused a
text before. -/
theorem load_save_dock :
    ∃ first second, ofPackageText dockText 7 = .ok first ∧
      ofPackageText dockText 8 = .ok second ∧
      let saved := first.after dockCalls
      let other := (second.load "no save").2
      saved.snapshot = ⟨some "dock", some 0, some ⟨7, 0⟩⟩ ∧ saved.state.Finite ∧
      ∃ shown, saved.resumed.Presents shown ∧
        (other.load saved.save).1 = .ok ((shown.map Step.json).getD .null) ∧
        (other.load saved.save).2.state = saved.state := by
  obtain ⟨first, accepted, seen⟩ := exists_of_toOption
    (show (ofPackageText dockText 7).toOption.map (fun first =>
      ((first.after dockCalls).snapshot, (first.after dockCalls).state.toList)) =
        some (⟨some "dock", some 0, some ⟨7, 0⟩⟩,
          [("name", .string "\"Mara\"\n"), ("tide", .float (.ofDecimal false 25 (-1)))]) by
      decide +kernel)
  obtain ⟨snapshot, entries⟩ := Prod.mk.inj seen
  obtain ⟨second, also⟩ : ∃ second, ofPackageText dockText 8 = .ok second := by
    rw [ofPackageText_reseeded dockText 7 8, accepted]
    exact ⟨_, rfl⟩
  have onlyTide : ∀ key number, (first.after dockCalls).state.get? key = some (.float number) →
      number = .ofDecimal false 25 (-1) := by
    intro key number found
    have member : (key, Value.float number) ∈ (first.after dockCalls).state.toList :=
      Std.ExtTreeMap.mem_toList_iff_getElem?_eq_some.2 found
    rw [entries] at member
    obtain ⟨-, same⟩ : key = "tide" ∧ number = .ofDecimal false 25 (-1) := by
      simpa using member
    exact same
  have addressable : (first.after dockCalls).snapshot.Addressable := by
    rw [snapshot]
    rintro index ⟨⟩
    decide
  have finite : (first.after dockCalls).state.Finite := by
    intro key number found
    rw [onlyTide key number found]
    decide +kernel
  have survive : ∀ key number, (first.after dockCalls).state.get? key = some (.float number) →
      number.isFinite = true → Json.FloatForm.literal.Keeps number := by
    intro key number found _
    rw [onlyTide key number found, Json.FloatForm.Keeps]
    decide +kernel
  obtain ⟨shown, presents, answered, state, -⟩ := (load_save accepted dockCalls also
    (.load .here "no save") addressable survive).1 finite
  exact ⟨first, second, accepted, also, snapshot, finite, shown, presents, answered, state⟩

/-- A variable that was set to infinity makes the save of a preview one that no preview of the
story can load, not even the one that was saved. -/
theorem load_save_infinite :
    ∃ preview, ofPackageText "()" 1 = .ok preview ∧
      ¬∃ answer, (preview.load (preview.after [.setVariable "x" "inf"]).save).1 = .ok answer := by
  obtain ⟨preview, accepted, refused⟩ := exists_of_toOption
    (show (ofPackageText "()" 1).toOption.map (fun preview =>
      (preview.load (preview.after [.setVariable "x" "inf"]).save).1.toBool) = some false by
      decide +kernel)
  refine ⟨preview, accepted, ?_⟩
  rintro ⟨answer, loaded⟩
  rw [loaded] at refused
  contradiction

end Preview

end BranchingStory
