import BranchingStory.Proofs.Store.Loading

/-!
# Merging packages and loading them in turn

Packages can be merged and then loaded as one, or loaded in turn, each over what those
before it left.  Loading in turn binds every event, also one that a later package replaces,
and so may be refused where the merged package is not.  Where it is not refused it comes to
the same store, in which every id means, for each kind, what the last package makes of it.
-/

namespace BranchingStory

namespace Package

/-! ## The laws of merging -/

theorem merge_assoc (first second third : Package) :
    (first.merge second).merge third = first.merge (second.merge third) := by
  simp only [merge, Table.overlay_assoc]

@[simp] theorem empty_merge (package : Package) : empty.merge package = package := by
  simp only [merge, empty, Table.empty_overlay]

@[simp] theorem merge_empty (package : Package) : package.merge empty = package := by
  simp only [merge, empty, Table.overlay_empty]

instance : Std.Associative Package.merge := ⟨merge_assoc⟩

/-- The content of several packages; of what they share the last one has it. -/
def mergeAll (packages : List Package) : Package := packages.foldl merge empty

@[simp] theorem mergeAll_nil : mergeAll [] = empty := by
  rfl

@[simp] theorem mergeAll_cons (package : Package) (packages : List Package) :
    mergeAll (package :: packages) = package.merge (mergeAll packages) := by
  rw [mergeAll, List.foldl_cons, empty_merge, ← merge_empty package, List.foldl_assoc,
    merge_empty]
  rfl

section Last

variable {α : Type} {part : Package → Table α}

/-- What the last of some packages that names an id has under it, among the dialogues, the
choices or the events. -/
def last? (part : Package → Table α) (packages : List Package) (id : String) : Option α :=
  packages.reverse.findSome? fun package => (part package)[id]?

theorem last?_cons (package : Package) (packages : List Package) (id : String) :
    last? part (package :: packages) id = (last? part packages id).or (part package)[id]? := by
  simp [last?, List.findSome?_append]

/-- The merged package has under each id what the last package has that names it. -/
theorem getElem?_mergeAll (part : Package → Table α) (starts : part empty = ∅)
    (merges : ∀ base top, part (merge base top) = Table.overlay (part base) (part top))
    (packages : List Package) (id : String) :
    (part (mergeAll packages))[id]? = last? part packages id := by
  induction packages with
  | nil => simp [starts, last?]
  | cons package packages ih =>
      rw [mergeAll_cons, merges, Table.getElem?_overlay, ih, last?_cons]

end Last

end Package

namespace Store

variable {σ : Type} {bindings : HostBindings σ} {store mid after : Store σ}
  {package top : Package}

/-! ## Loading in turn -/

/-- Loads one item after another and stops at the first that is refused. -/
def inTurn {α : Type} (load : Store σ → α → Except StoryError Unit × Store σ) :
    List α → Store σ → Except StoryError Unit × Store σ
  | [], store => (.ok (), store)
  | item :: items, store =>
      match load store item with
      | (.ok (), store) => inTurn load items store
      | (.error error, store) => (.error error, store)

theorem inTurn_cons_ok_iff {α : Type} {load : Store σ → α → Except StoryError Unit × Store σ}
    {item : α} {items : List α} :
    inTurn load (item :: items) store = (.ok (), after) ↔
      ∃ mid, load store item = (.ok (), mid) ∧ inTurn load items mid = (.ok (), after) := by
  rw [inTurn]
  generalize load store item = loaded
  obtain ⟨result, mid⟩ := loaded
  cases result with
  | error error =>
      constructor
      · rintro ⟨⟩
      · rintro ⟨_, ⟨⟩, _⟩
  | ok _ =>
      constructor
      · exact fun rest => ⟨mid, rfl, rest⟩
      · rintro ⟨_, ⟨⟩, rest⟩
        exact rest

/-- Loading in turn does not depend on the order in which the entries of each package are
taken. -/
theorem inTurn_loadListing_ok_iff (taken : List ((package : Package) × package.Listing)) :
    inTurn (fun store item => store.loadListing item.2 bindings) taken store =
        (.ok (), after) ↔
      inTurn (fun store package => store.load package bindings) (taken.map Sigma.fst) store =
        (.ok (), after) := by
  induction taken generalizing store with
  | nil => rfl
  | cons item taken ih =>
      rw [List.map_cons, inTurn_cons_ok_iff, inTurn_cons_ok_iff]
      simp only [loadListing_ok_iff, load_ok_iff, ih]

/-- Packages can be loaded in turn exactly when every event of each of them can be bound,
also one that a later package replaces. -/
theorem exists_inTurn_iff {packages : List Package} :
    (∃ after, inTurn (fun store package => store.load package bindings) packages store =
      (.ok (), after)) ↔
      ∀ package ∈ packages, ∀ (id : String) (body : EventBody),
        package.events[id]? = some body → ∃ event, body.bind bindings id = .ok event := by
  induction packages generalizing store with
  | nil => exact ⟨fun _ _ member => by contradiction, fun _ => ⟨store, rfl⟩⟩
  | cons package packages ih =>
      simp only [inTurn_cons_ok_iff, load_ok_iff, List.forall_mem_cons]
      rw [← @exists_loaded_iff σ store]
      constructor
      · rintro ⟨after, mid, first, rest⟩
        exact ⟨⟨mid, first⟩, ih.1 ⟨after, rest⟩⟩
      · rintro ⟨⟨mid, first⟩, others⟩
        obtain ⟨after, rest⟩ := ih.2 others
        exact ⟨after, mid, first, rest⟩

theorem loaded_empty (bindings : HostBindings σ) (store : Store σ) :
    Loaded bindings store .empty store :=
  ⟨Table.laid_empty _ _, Table.laid_empty _ _, Table.laid_empty _ _⟩

/-- Two packages loaded one after the other are loaded as one. -/
theorem Loaded.trans (lower : Loaded bindings store package mid)
    (upper : Loaded bindings mid top after) :
    Loaded bindings store (package.merge top) after :=
  ⟨lower.dialogues.trans upper.dialogues, lower.choices.trans upper.choices,
    lower.events.trans upper.events⟩

theorem loaded_of_inTurn {packages : List Package}
    (loaded : inTurn (fun store package => store.load package bindings) packages store =
      (.ok (), after)) :
    Loaded bindings store (.mergeAll packages) after := by
  induction packages generalizing store with
  | nil =>
      cases loaded
      exact loaded_empty bindings _
  | cons package packages ih =>
      obtain ⟨mid, first, rest⟩ := inTurn_cons_ok_iff.1 loaded
      rw [Package.mergeAll_cons]
      exact (load_ok_iff.1 first).trans (ih rest)

/-! ## What the merged package gives -/

/-- A store that has, for each kind and id, what the last of some packages has under it:
entry, lines, tags and rules word for word, the rules bound to the host in their order, and
the id under which they stand.  It has nothing else. -/
structure HoldsLast (bindings : HostBindings σ) (packages : List Package) (store : Store σ) :
    Prop where
  dialogues : ∀ id, store.dialogues[id]? =
    (Package.last? Package.dialogues packages id).map fun body => ⟨id, body.entry, body.lines⟩
  choices : ∀ id, store.choices[id]? =
    (Package.last? Package.choices packages id).map fun body => ⟨id, body.lines⟩
  noEvent : ∀ id, Package.last? Package.events packages id = none → store.events[id]? = none
  event : ∀ id body, Package.last? Package.events packages id = some body →
    ∃ event, store.events[id]? = some event ∧ event.id = id ∧ event.body = body ∧
      body.bind bindings id = .ok event

theorem Loaded.holdsLast {packages : List Package}
    (loaded : Loaded bindings empty (.mergeAll packages) store) :
    store.HoldsLast bindings packages := by
  have dialogues := Package.getElem?_mergeAll Package.dialogues rfl
    (fun _ _ => rfl) packages
  have choices := Package.getElem?_mergeAll Package.choices rfl
    (fun _ _ => rfl) packages
  have events := Package.getElem?_mergeAll Package.events rfl
    (fun _ _ => rfl) packages
  constructor
  · intro id
    rw [← dialogues]
    exact loaded.dialogues.getElem?_of_empty id
  · intro id
    rw [← choices]
    exact loaded.choices.getElem?_of_empty id
  · intro id unnamed
    rw [← events] at unnamed
    exact (loaded.events.kept unnamed).trans Std.ExtTreeMap.getElem?_empty
  · intro id body named
    rw [← events] at named
    obtain ⟨event, bound, found⟩ := loaded.events.made named
    exact ⟨event, found, EventBody.bind_id bound, EventBody.body_of_bind bound, bound⟩

/-- Packages can be loaded in turn where all their events can be bound.  Then they can also
be merged and loaded as one, and this comes to the same store, which holds what the last
package has under each id.  The entries of each package may be taken in any order.  Merging
is associative, and no content is its identity on both sides. -/
theorem load_mergeAll_of_inTurn (bindings : HostBindings σ) :
    (∀ packages : List Package,
      (∃ store, inTurn (fun store package => store.load package bindings) packages empty =
        (.ok (), store)) ↔
        ∀ package ∈ packages, ∀ (id : String) (body : EventBody),
          package.events[id]? = some body → ∃ event, body.bind bindings id = .ok event) ∧
    (∀ (taken : List ((package : Package) × package.Listing)) (store : Store σ),
      inTurn (fun store item => store.loadListing item.2 bindings) taken empty =
        (.ok (), store) →
      let packages := taken.map Sigma.fst
      inTurn (fun store package => store.load package bindings) packages empty =
        (.ok (), store) ∧
      empty.load (.mergeAll packages) bindings = (.ok (), store) ∧
      (∀ listing : (Package.mergeAll packages).Listing,
        empty.loadListing listing bindings = (.ok (), store)) ∧
      store.HoldsLast bindings packages) ∧
    (∀ first second third : Package,
      (first.merge second).merge third = first.merge (second.merge third)) ∧
    ∀ package : Package, Package.empty.merge package = package ∧
      package.merge .empty = package := by
  refine ⟨fun packages => exists_inTurn_iff, ?_, Package.merge_assoc, ?_⟩
  · intro taken store loaded packages
    have ordered : inTurn (fun store package => store.load package bindings) packages empty =
        (.ok (), store) := (inTurn_loadListing_ok_iff taken).1 loaded
    have together := loaded_of_inTurn ordered
    refine ⟨ordered, load_ok_iff.2 together, ?_, together.holdsLast⟩
    exact fun listing => (loadListing_ok_iff listing).2 together
  · exact fun package => ⟨Package.empty_merge package, Package.merge_empty package⟩

end Store

namespace Sample

/-- A shore with its horn at low water. -/
def ebb : Package where
  dialogues := Table.ofEntries
    [("shore", ⟨none, [⟨none, "", "Sand.", "", none, none, none, terminalName⟩]⟩)]
  choices := ∅
  events := Table.ofEntries [("horn", ⟨.and, .sequential, [], [.toggle "fog"]⟩)]

/-- The same shore at high water, where the host has a part in the horn. -/
def flood : Package where
  dialogues := Table.ofEntries
    [("shore", ⟨none, [⟨none, "", "Water.", "", none, none, none, terminalName⟩]⟩)]
  choices := ∅
  events := Table.ofEntries
    [("horn", ⟨.or, .concurrent, [.host "foggy"], [.add "blown" 2, .host "blow"]⟩)]

/-- A host that blows the horn. -/
def keeper : HostBindings Variables where
  conditions := Table.ofEntries [("foggy", fun state => flagOf state "fog")]
  effects := Table.ofEntries [("blow", fun state => state.set "blown" (.int 0))]

end Sample

/-- Low water and then high water comes to high water, loaded in turn or as one. -/
theorem Store.load_mergeAll_of_inTurn_flood :
    ∃ store : Store Variables,
      inTurn (fun store (item : (package : Package) × package.Listing) =>
          store.loadListing item.2 Sample.keeper)
        [⟨Sample.ebb, Sample.ebb.listing⟩, ⟨Sample.flood, Sample.flood.listing⟩] empty =
          (.ok (), store) ∧
      empty.load (.mergeAll [Sample.ebb, Sample.flood]) Sample.keeper = (.ok (), store) ∧
      store.dialogues["shore"]? = some ⟨"shore", none,
        [⟨none, "", "Water.", "", none, none, none, terminalName⟩]⟩ ∧
      ∃ event, store.events["horn"]? = some event ∧ event.id = "horn" ∧ event.body =
        ⟨.or, .concurrent, [.host "foggy"], [.add "blown" 2, .host "blow"]⟩ := by
  obtain ⟨store, loaded⟩ : ∃ store : Store Variables,
      inTurn (fun store (item : (package : Package) × package.Listing) =>
          store.loadListing item.2 Sample.keeper)
        [⟨Sample.ebb, Sample.ebb.listing⟩, ⟨Sample.flood, Sample.flood.listing⟩] empty =
          (.ok (), store) := ⟨_, rfl⟩
  obtain ⟨_, merged, _, last⟩ :=
    (Store.load_mergeAll_of_inTurn Sample.keeper).2.1 _ _ loaded
  have shore : Package.last? Package.dialogues [Sample.ebb, Sample.flood] "shore" =
      some ⟨none, [⟨none, "", "Water.", "", none, none, none, terminalName⟩]⟩ := by
    decide +kernel
  have horn : Package.last? Package.events [Sample.ebb, Sample.flood] "horn" =
      some ⟨.or, .concurrent, [.host "foggy"], [.add "blown" 2, .host "blow"]⟩ := by
    decide +kernel
  obtain ⟨event, found, named, body, _⟩ := last.event "horn" _ horn
  refine ⟨store, loaded, merged, ?_, event, found, named, body⟩
  exact (last.dialogues "shore").trans (congrArg (Option.map _) shore)

end BranchingStory
