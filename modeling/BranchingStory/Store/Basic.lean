import BranchingStory.Event.Binding

/-!
# The store of a story

A store holds the nodes of a story under their ids, one table for each kind, with the
events bound to a host. A name that several kinds share means the dialogue before the
choice and the choice before the event.
-/

namespace BranchingStory

/-- The nodes of a story under their ids. -/
structure Store (σ : Type) where
  dialogues : Table Dialogue
  choices : Table Choice
  events : Table (Event σ)

/-- A node of any kind. -/
inductive Node (σ : Type) where
  | dialogue (dialogue : Dialogue)
  | choice (choice : Choice)
  | event (event : Event σ)

namespace Node

variable {σ : Type}

def kind : Node σ → NodeKind
  | .dialogue _ => .dialogue
  | .choice _ => .choice
  | .event _ => .event

def id : Node σ → String
  | .dialogue found => found.id
  | .choice found => found.id
  | .event found => found.id

end Node

namespace Store

variable {σ : Type}

/-- No nodes. -/
def empty : Store σ := ⟨∅, ∅, ∅⟩

def dialogue (store : Store σ) (id : String) : Except StoryError Dialogue :=
  match store.dialogues[id]? with
  | some found => .ok found
  | none => .error (.notFound .dialogue id)

def choice (store : Store σ) (id : String) : Except StoryError Choice :=
  match store.choices[id]? with
  | some found => .ok found
  | none => .error (.notFound .choice id)

def event (store : Store σ) (id : String) : Except StoryError (Event σ) :=
  match store.events[id]? with
  | some found => .ok found
  | none => .error (.notFound .event id)

/-- The node that an id means. -/
def node? (store : Store σ) (id : String) : Option (Node σ) :=
  (store.dialogues[id]?.map .dialogue).or
    ((store.choices[id]?.map .choice).or (store.events[id]?.map .event))

/-- The node that an id means, or an error if it means none. -/
def resolve (store : Store σ) (id : String) : Except StoryError (Node σ) :=
  match store.node? id with
  | some node => .ok node
  | none => .error (.notFound .node id)

/-- Whether an id means a node. -/
def contains (store : Store σ) (id : String) : Bool :=
  store.dialogues.contains id || store.choices.contains id || store.events.contains id

/-- How many nodes there are, counting each kind of a shared id. -/
def size (store : Store σ) : Nat :=
  store.dialogues.size + store.choices.size + store.events.size

def isEmpty (store : Store σ) : Bool := store.size == 0

/-- Adds a dialogue in place of the one of its id. -/
def insertDialogue (store : Store σ) (added : Dialogue) : Store σ :=
  { store with dialogues := store.dialogues.insert added.id added }

/-- Adds a choice in place of the one of its id. -/
def insertChoice (store : Store σ) (added : Choice) : Store σ :=
  { store with choices := store.choices.insert added.id added }

/-- Adds an event in place of the one of its id. -/
def insertEvent (store : Store σ) (added : Event σ) : Store σ :=
  { store with events := store.events.insert added.id added }

/-- Adds events until one cannot be bound to the host; those before it stay. -/
def insertEvents (bindings : HostBindings σ) :
    List (String × EventBody) → Store σ → Except StoryError Unit × Store σ
  | [], store => (.ok (), store)
  | (id, body) :: bodies, store =>
      match body.bind bindings id with
      | .ok bound => insertEvents bindings bodies (store.insertEvent bound)
      | .error error => (.error error, store)

/-- Adds the content of a package, each node under the id it has there. When an event
cannot be bound to the host, the dialogues and choices stay. -/
def load (store : Store σ) (package : Package) (bindings : HostBindings σ) :
    Except StoryError Unit × Store σ :=
  let store := package.dialogues.toList.foldl
    (fun (store : Store σ) entry =>
      store.insertDialogue ⟨entry.1, entry.2.entry, entry.2.lines⟩)
    store
  let store := package.choices.toList.foldl
    (fun (store : Store σ) entry => store.insertChoice ⟨entry.1, entry.2.lines⟩)
    store
  store.insertEvents bindings package.events.toList

/-- The kinds of node that have an id. -/
def kindsOf (store : Store σ) (id : String) : List NodeKind :=
  (if store.dialogues.contains id then [.dialogue] else []) ++
    (if store.choices.contains id then [.choice] else []) ++
    (if store.events.contains id then [.event] else [])

/-- All ids without repetition, in order. -/
def distinctIds (store : Store σ) : List String :=
  let names := store.dialogues.keys ++ store.choices.keys ++ store.events.keys
  (Table.ofEntries (names.map fun name => (name, ()))).keys

/-- All ids with their kinds, in the order of the ids; a shared id comes once for each of
its kinds. -/
def ids (store : Store σ) : List (String × NodeKind) :=
  store.distinctIds.flatMap fun id => (store.kindsOf id).map fun kind => (id, kind)

end Store

end BranchingStory
