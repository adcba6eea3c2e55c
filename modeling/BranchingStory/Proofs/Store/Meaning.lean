import BranchingStory.Proofs.Event.Meaning
import BranchingStory.Proofs.Store.Loading

/-!
# Loaded events do what their authors wrote

Whether a package can be loaded depends on the names that its events ask of the host and on
nothing else: not on the order in which its entries are taken, not on what the store holds.
Where the host has them all, each event of the package stands in the store under its id and
does what its body means.  Where one is wanting, loading fails with the name of one that is.
-/

namespace BranchingStory

variable {σ : Type}

/-- A package asks the host for a name: one of its events does. -/
def Package.Asks (package : Package) (table : HostTable) (name : String) : Prop :=
  ∃ (id : String) (body : EventBody), package.events[id]? = some body ∧ body.Asks table name

namespace Store

variable {store : Store σ} {package : Package} {bindings : HostBindings σ}

/-- Adding events fails only on one of them that cannot be bound. -/
theorem exists_bind_error_of_insertEvents {bodies : List (String × EventBody)}
    {error : StoryError} (failed : (store.insertEvents bindings bodies).1 = .error error) :
    ∃ id body, (id, body) ∈ bodies ∧ body.bind bindings id = .error error := by
  induction bodies generalizing store with
  | nil => cases failed
  | cons entry bodies ih =>
      obtain ⟨id, body⟩ := entry
      cases bound : body.bind bindings id with
      | error first =>
          simp only [insertEvents, bound] at failed
          cases failed
          exact ⟨id, body, List.mem_cons_self, bound⟩
      | ok event =>
          simp only [insertEvents, bound] at failed
          obtain ⟨other, otherBody, listed, refused⟩ := ih failed
          exact ⟨other, otherBody, List.mem_cons_of_mem _ listed, refused⟩

theorem exists_loaded_iff_has :
    (∃ after, Loaded bindings store package after) ↔
      ∀ table name, package.Asks table name → bindings.Has table name := by
  simp only [exists_loaded_iff, EventBody.exists_bind_iff_has]
  constructor
  · rintro bindable table name ⟨id, body, named, asks⟩
    exact bindable id body named table name asks
  · intro has id body named table name asks
    exact has table name ⟨id, body, named, asks⟩

theorem asks_of_loadListing_error {listing : package.Listing} {error : StoryError}
    (failed : (store.loadListing listing bindings).1 = .error error) :
    ∃ table name, error = .unknownHostBinding name ∧ package.Asks table name ∧
      ¬bindings.Has table name := by
  obtain ⟨id, body, listed, refused⟩ := exists_bind_error_of_insertEvents failed
  obtain ⟨table, name, told, asks, missing⟩ := EventBody.asks_of_bind_error refused
  have named := (Table.mem_of_listed listing.events_perm).1 listed
  exact ⟨table, name, told, ⟨id, body, named, asks⟩, missing⟩

/-- A package is loaded exactly when the host has each name that the events ask, in the table
in which it is asked; otherwise the error is the name of one that the host does not have
there.  A store into which a package was loaded has each of its events, and they do what
their bodies mean.  All of this is so in whatever order the entries of the package are
taken. -/
theorem load_realizes [PlayerState σ] (store : Store σ) (package : Package)
    (bindings : HostBindings σ) :
    store.load package bindings = store.loadListing package.listing bindings ∧
    ∀ listing : package.Listing,
      ((∃ after, store.loadListing listing bindings = (.ok (), after)) ↔
        ∀ table name, package.Asks table name → bindings.Has table name) ∧
      (∀ error, (store.loadListing listing bindings).1 = .error error →
        ∃ table name, error = .unknownHostBinding name ∧ package.Asks table name ∧
          ¬bindings.Has table name) ∧
      ∀ after, store.loadListing listing bindings = (.ok (), after) →
        ∀ (id : String) (body : EventBody), package.events[id]? = some body →
          ∃ event, after.events[id]? = some event ∧ event.id = id ∧
            body.RealizedBy bindings event := by
  refine ⟨load_eq_loadListing store package bindings, ?_⟩
  intro listing
  refine ⟨?_, fun error failed => asks_of_loadListing_error failed, ?_⟩
  · simp only [loadListing_ok_iff, exists_loaded_iff_has]
  · intro after loaded id body named
    obtain ⟨event, bound, found⟩ := (loadListing_ok_iff listing |>.1 loaded).events.made named
    exact ⟨event, found, EventBody.bind_id bound, EventBody.realizedBy_of_bind bound⟩

end Store

namespace Sample

/-- A lamp that the host lights by day, said with two negations. -/
def lamp : Package where
  dialogues := ∅
  choices := ∅
  events := Table.ofEntries
    [("lamp", ⟨.and, .sequential, [.not (.not (.host "day"))], [.host "light"]⟩)]

/-- A host that knows the day by the sun. -/
def lamplighter : HostBindings Variables where
  conditions := Table.ofEntries [("day", fun state => flagOf state "sun")]
  effects := Table.ofEntries [("light", fun state => state.set "lit" (.bool true))]

/-- A host that has the day among its effects alone. -/
def sundial : HostBindings Variables where
  conditions := ∅
  effects := Table.ofEntries [("day", id), ("light", id)]

end Sample

/-- A lamp whose condition is the host's below two negations. -/
theorem Store.load_realizes_lamp :
    ∃ after event,
      Store.empty.load Sample.lamp Sample.lamplighter = (.ok (), after) ∧
      after.events["lamp"]? = some event ∧ event.id = "lamp" ∧
      EventBody.RealizedBy Sample.lamplighter
        ⟨.and, .sequential, [.not (.not (.host "day"))], [.host "light"]⟩ event := by
  obtain ⟨listed, whole⟩ := Store.load_realizes .empty Sample.lamp Sample.lamplighter
  obtain ⟨after, loaded⟩ : ∃ after,
      Store.empty.loadListing Sample.lamp.listing Sample.lamplighter = (.ok (), after) :=
    ⟨_, rfl⟩
  have named : Sample.lamp.events["lamp"]? =
      some ⟨.and, .sequential, [.not (.not (.host "day"))], [.host "light"]⟩ := by
    decide +kernel
  obtain ⟨event, found, same, realized⟩ :=
    (whole Sample.lamp.listing).2.2 after loaded "lamp" _ named
  exact ⟨after, event, listed.trans loaded, found, same, realized⟩

/-- A name is of use only in the table in which it is asked. -/
example :
    (Store.empty.load Sample.lamp Sample.sundial).1 = .error (.unknownHostBinding "day") := by
  rfl

end BranchingStory
