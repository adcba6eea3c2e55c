import BranchingStory.Store.Basic

/-!
# Stores that are keyed by the ids of their nodes

A host fills a store one node at a time or a package at a time, and each node comes
under its own id.  So whatever an id means in such a store has that id, and a node that
was found once can be found again by its own id.
-/

namespace BranchingStory

namespace Table

variable {α : Type}

/-- Every entry of a table stands under its own key. -/
def KeyedBy (key : α → String) (table : Table α) : Prop :=
  ∀ name found, table[name]? = some found → key found = name

theorem keyedBy_empty (key : α → String) : KeyedBy key (∅ : Table α) := by
  intro name found lookup
  simp at lookup

theorem KeyedBy.insert {key : α → String} {table : Table α} (keyed : KeyedBy key table)
    (added : α) : KeyedBy key (table.insert (key added) added) := by
  intro name found lookup
  rw [Std.ExtTreeMap.getElem?_insert] at lookup
  by_cases same : key added = name
  · simp only [same, Std.ReflCmp.compare_self, ↓reduceIte, Option.some.injEq] at lookup
    rw [← lookup, same]
  · have different : compare (key added) name ≠ .eq := by simpa using same
    rw [if_neg different] at lookup
    exact keyed name found lookup

end Table

namespace Store

variable {σ : Type} {store : Store σ}

/-- The stores that a host can come by. -/
inductive Constructed : Store σ → Prop where
  | empty : Constructed empty
  | insertDialogue {store : Store σ} (added : Dialogue) :
      Constructed store → Constructed (store.insertDialogue added)
  | insertChoice {store : Store σ} (added : Choice) :
      Constructed store → Constructed (store.insertChoice added)
  | insertEvent {store : Store σ} (added : Event σ) :
      Constructed store → Constructed (store.insertEvent added)

namespace Constructed

/-- A fold of insertions makes a store that a host can come by. -/
theorem foldl {α : Type} {add : Store σ → α → Store σ}
    (adds : ∀ {store : Store σ} entry, Constructed store → Constructed (add store entry))
    (entries : List α) (constructed : Constructed store) :
    Constructed (entries.foldl add store) := by
  induction entries generalizing store with
  | nil => exact constructed
  | cons entry entries ih => exact ih (adds entry constructed)

theorem insertEvents (bindings : HostBindings σ) (bodies : List (String × EventBody))
    (constructed : Constructed store) :
    Constructed (store.insertEvents bindings bodies).2 := by
  induction bodies generalizing store with
  | nil => exact constructed
  | cons entry bodies ih =>
      obtain ⟨id, body⟩ := entry
      cases bound : body.bind bindings id with
      | ok event =>
          simp only [Store.insertEvents, bound]
          exact ih (constructed.insertEvent event)
      | error error =>
          simp only [Store.insertEvents, bound]
          exact constructed

/-- Loading a package, also one that is refused half way, is a number of insertions. -/
theorem load (package : Package) (bindings : HostBindings σ)
    (constructed : Constructed store) :
    Constructed (store.load package bindings).2 := by
  unfold Store.load
  apply insertEvents
  apply foldl (fun entry constructed => constructed.insertChoice _)
  exact foldl (fun entry constructed => constructed.insertDialogue _) _ constructed

end Constructed

/-- Every node of the store stands under its own id. -/
structure Keyed (store : Store σ) : Prop where
  dialogues : Table.KeyedBy Dialogue.id store.dialogues
  choices : Table.KeyedBy Choice.id store.choices
  events : Table.KeyedBy Event.id store.events

theorem Constructed.keyed (constructed : Constructed store) : store.Keyed := by
  induction constructed with
  | empty =>
      exact ⟨Table.keyedBy_empty _, Table.keyedBy_empty _, Table.keyedBy_empty _⟩
  | insertDialogue added _ ih => exact { ih with dialogues := ih.dialogues.insert added }
  | insertChoice added _ ih => exact { ih with choices := ih.choices.insert added }
  | insertEvent added _ ih => exact { ih with events := ih.events.insert added }

/-! ## What an id means -/

section Lookup

variable {id : String} {node : Node σ}

theorem node?_cases (found : store.node? id = some node) :
    (∃ dialogue, store.dialogues[id]? = some dialogue ∧ node = .dialogue dialogue) ∨
    (∃ choice, store.choices[id]? = some choice ∧ node = .choice choice) ∨
    ∃ event, store.events[id]? = some event ∧ node = .event event := by
  simp only [node?, Option.or_eq_some_iff, Option.map_eq_some_iff] at found
  rcases found with
    ⟨dialogue, lookup, rfl⟩ | ⟨_, ⟨choice, lookup, rfl⟩ | ⟨_, event, lookup, rfl⟩⟩
  · exact .inl ⟨dialogue, lookup, rfl⟩
  · exact .inr (.inl ⟨choice, lookup, rfl⟩)
  · exact .inr (.inr ⟨event, lookup, rfl⟩)

theorem Keyed.id_eq (keyed : store.Keyed) (found : store.node? id = some node) :
    node.id = id := by
  rcases node?_cases found with ⟨_, lookup, rfl⟩ | ⟨_, lookup, rfl⟩ | ⟨_, lookup, rfl⟩
  · exact keyed.dialogues _ _ lookup
  · exact keyed.choices _ _ lookup
  · exact keyed.events _ _ lookup

/-- The node that an id means is also meant by its own id. -/
theorem Keyed.node?_id (keyed : store.Keyed) (found : store.node? id = some node) :
    store.node? node.id = some node := by
  rw [keyed.id_eq found]
  exact found

theorem contains_iff : store.contains id = true ↔ ∃ node, store.node? id = some node := by
  simp only [contains, node?, Std.ExtTreeMap.contains_eq_isSome_getElem?]
  cases store.dialogues[id]? <;> cases store.choices[id]? <;> cases store.events[id]? <;>
    simp

theorem resolve_of_found (found : store.node? id = some node) :
    store.resolve id = .ok node := by
  simp only [resolve, found]

theorem resolve_of_missing (missing : store.node? id = none) :
    store.resolve id = .error (.notFound .node id) := by
  simp only [resolve, missing]

end Lookup

end Store

end BranchingStory
