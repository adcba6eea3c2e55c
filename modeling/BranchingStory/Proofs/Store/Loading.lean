import BranchingStory.Proofs.Event.Binding
import BranchingStory.Proofs.Store.Keyed
import BranchingStory.Table

/-!
# What loading a package does

A package is loaded exactly when each of its events can be bound to the host, and the store
afterwards has the nodes of the package laid over its own, kind by kind.  This says nothing
about the order in which the entries of a package are taken, and indeed any order leads to
the same store.
-/

namespace BranchingStory

/-- The dialogue that a body is under an id. -/
def DialogueBody.named (body : DialogueBody) (id : String) : Dialogue :=
  ⟨id, body.entry, body.lines⟩

/-- The choice that a body is under an id. -/
def ChoiceBody.named (body : ChoiceBody) (id : String) : Choice := ⟨id, body.lines⟩

/-- The entries of a package, those of each kind in some order. -/
structure Package.Listing (package : Package) where
  dialogues : List (String × DialogueBody)
  choices : List (String × ChoiceBody)
  events : List (String × EventBody)
  dialogues_perm : dialogues.Perm package.dialogues.toList
  choices_perm : choices.Perm package.choices.toList
  events_perm : events.Perm package.events.toList

/-- The entries of a package in the order of their ids. -/
def Package.listing (package : Package) : package.Listing :=
  ⟨package.dialogues.toList, package.choices.toList, package.events.toList,
    .refl _, .refl _, .refl _⟩

namespace Store

variable {σ : Type} {store after : Store σ} {package : Package} {bindings : HostBindings σ}

/-- Adds the content of a package, taking its entries in the order of a listing. -/
def loadListing (store : Store σ) (listing : package.Listing) (bindings : HostBindings σ) :
    Except StoryError Unit × Store σ :=
  let store := listing.dialogues.foldl
    (fun (store : Store σ) entry => store.insertDialogue (entry.2.named entry.1)) store
  let store := listing.choices.foldl
    (fun (store : Store σ) entry => store.insertChoice (entry.2.named entry.1)) store
  store.insertEvents bindings listing.events

theorem load_eq_loadListing (store : Store σ) (package : Package)
    (bindings : HostBindings σ) :
    store.load package bindings = store.loadListing package.listing bindings := by
  rfl

theorem foldl_insertDialogue (entries : List (String × DialogueBody)) (store : Store σ) :
    entries.foldl (fun (store : Store σ) entry =>
        store.insertDialogue (entry.2.named entry.1)) store =
      { store with
        dialogues := entries.foldl
          (fun table entry => table.insert entry.1 (entry.2.named entry.1)) store.dialogues } := by
  induction entries generalizing store with
  | nil => rfl
  | cons entry entries ih => exact ih _

theorem foldl_insertChoice (entries : List (String × ChoiceBody)) (store : Store σ) :
    entries.foldl (fun (store : Store σ) entry =>
        store.insertChoice (entry.2.named entry.1)) store =
      { store with
        choices := entries.foldl
          (fun table entry => table.insert entry.1 (entry.2.named entry.1)) store.choices } := by
  induction entries generalizing store with
  | nil => rfl
  | cons entry entries ih => exact ih _

/-- Events that can all be bound are all added. -/
theorem exists_insertEvents {bodies : List (String × EventBody)}
    (bindable : ∀ id body, (id, body) ∈ bodies → ∃ event, body.bind bindings id = .ok event)
    (store : Store σ) : ∃ after, store.insertEvents bindings bodies = (.ok (), after) := by
  induction bodies generalizing store with
  | nil => exact ⟨store, rfl⟩
  | cons entry bodies ih =>
      obtain ⟨id, body⟩ := entry
      obtain ⟨event, bound⟩ := bindable id body List.mem_cons_self
      obtain ⟨after, added⟩ := ih
        (fun id body member => bindable id body (List.mem_cons_of_mem _ member))
        (store.insertEvent event)
      refine ⟨after, ?_⟩
      simp only [insertEvents, bound]
      exact added

/-- Where events were added, each of them was bound and stands under its id. -/
theorem insertEvents_ok {bodies : List (String × EventBody)}
    (distinct : (bodies.map Prod.fst).Nodup)
    (added : store.insertEvents bindings bodies = (.ok (), after)) :
    after.dialogues = store.dialogues ∧ after.choices = store.choices ∧
    (∀ id body, (id, body) ∈ bodies →
      ∃ event, body.bind bindings id = .ok event ∧ after.events[id]? = some event) ∧
    ∀ id, id ∉ bodies.map Prod.fst → after.events[id]? = store.events[id]? := by
  induction bodies generalizing store with
  | nil =>
      cases added
      exact ⟨rfl, rfl, fun id body member => by contradiction, fun id _ => rfl⟩
  | cons entry bodies ih =>
      obtain ⟨id, body⟩ := entry
      obtain ⟨fresh, others⟩ := List.nodup_cons.1 distinct
      cases bound : body.bind bindings id with
      | error error =>
          simp only [insertEvents, bound] at added
          cases added
      | ok event =>
          simp only [insertEvents, bound] at added
          obtain ⟨dialogues, choices, made, kept⟩ := ih others added
          have own : event.id = id := EventBody.bind_id bound
          refine ⟨dialogues, choices, ?_, ?_⟩
          · intro other otherBody member
            rcases List.mem_cons.1 member with same | later
            · cases same
              refine ⟨event, bound, ?_⟩
              rw [kept id fresh, insertEvent, own, Std.ExtTreeMap.getElem?_insert_self]
            · exact made other otherBody later
          · intro other absent
            obtain ⟨different, absent⟩ := not_or.1 (mt List.mem_cons.2 absent)
            have apart : compare id other ≠ .eq := by
              rw [ne_eq, Std.LawfulEqCmp.compare_eq_iff_eq]
              exact fun same => different same.symm
            rw [kept other absent, insertEvent, own, Std.ExtTreeMap.getElem?_insert,
              if_neg apart]

/-- A store after a package was loaded into it. -/
structure Loaded (bindings : HostBindings σ) (store : Store σ) (package : Package)
    (after : Store σ) : Prop where
  dialogues : Table.Laid (fun id (body : DialogueBody) =>
      (.ok (body.named id) : Except StoryError Dialogue))
    store.dialogues package.dialogues after.dialogues
  choices : Table.Laid (fun id (body : ChoiceBody) =>
      (.ok (body.named id) : Except StoryError Choice))
    store.choices package.choices after.choices
  events : Table.Laid (fun id (body : EventBody) => body.bind bindings id)
    store.events package.events after.events

theorem Loaded.unique {other : Store σ} (loaded : Loaded bindings store package after)
    (also : Loaded bindings store package other) : after = other := by
  obtain ⟨dialogues, choices, events⟩ := after
  obtain ⟨otherDialogues, otherChoices, otherEvents⟩ := other
  cases loaded.dialogues.unique also.dialogues
  cases loaded.choices.unique also.choices
  cases loaded.events.unique also.events
  rfl

/-- Loading succeeds, in whatever order the entries are taken, exactly when the package can
be laid over the store, and it leads to the store that has it. -/
theorem loadListing_ok_iff (listing : package.Listing) :
    store.loadListing listing bindings = (.ok (), after) ↔
      Loaded bindings store package after := by
  have distinct := Table.nodup_of_listed listing.events_perm
  have sound {after : Store σ}
      (loaded : store.loadListing listing bindings = (.ok (), after)) :
      Loaded bindings store package after := by
    simp only [loadListing, foldl_insertDialogue, foldl_insertChoice] at loaded
    obtain ⟨dialogues, choices, made, kept⟩ := insertEvents_ok distinct loaded
    constructor
    · rw [dialogues]
      exact Table.laid_foldl (fun id body => body.named id) listing.dialogues_perm _
    · rw [choices]
      exact Table.laid_foldl (fun id body => body.named id) listing.choices_perm _
    · constructor
      · exact fun named => made _ _ ((Table.mem_of_listed listing.events_perm).2 named)
      · exact fun unnamed => kept _ ((Table.not_mem_of_listed listing.events_perm).2 unnamed)
  constructor
  · exact sound
  · intro loaded
    have bindable : ∀ id body, (id, body) ∈ listing.events →
        ∃ event, body.bind bindings id = .ok event := by
      intro id body member
      obtain ⟨event, bound, _⟩ :=
        loaded.events.made ((Table.mem_of_listed listing.events_perm).1 member)
      exact ⟨event, bound⟩
    obtain ⟨other, added⟩ : ∃ other,
        store.loadListing listing bindings = (.ok (), other) :=
      exists_insertEvents bindable _
    rw [added, (sound added).unique loaded]

theorem load_ok_iff :
    store.load package bindings = (.ok (), after) ↔ Loaded bindings store package after := by
  rw [load_eq_loadListing, loadListing_ok_iff]

/-- A package can be loaded exactly when each of its events can be bound. -/
theorem exists_loaded_iff :
    (∃ after, Loaded bindings store package after) ↔
      ∀ (id : String) (body : EventBody), package.events[id]? = some body →
        ∃ event, body.bind bindings id = .ok event := by
  constructor
  · rintro ⟨after, loaded⟩ id body named
    obtain ⟨event, bound, _⟩ := loaded.events.made named
    exact ⟨event, bound⟩
  · intro bindable
    have listed : ∀ id body, (id, body) ∈ package.listing.events →
        ∃ event, body.bind bindings id = .ok event := fun id body member =>
      bindable id body ((Table.mem_of_listed package.listing.events_perm).1 member)
    obtain ⟨after, added⟩ : ∃ after,
        store.loadListing package.listing bindings = (.ok (), after) :=
      exists_insertEvents listed _
    exact ⟨after, (loadListing_ok_iff _).1 added⟩

end Store

end BranchingStory
