import BranchingStory.Proofs.Store.Building
import BranchingStory.Proofs.Store.Loading

/-!
# Stores of hosts with different states

The states of a host only matter to what the host binds.  Two hosts that bind nothing load
the same packages and come to stores that are alike: their nodes are the same word for
word, and so are the issues that are found in them.
-/

namespace BranchingStory

open Validation

variable {σ τ : Type}

/-- The issues of an event, which only depend on its id and its body. -/
def Event.issuesOf (named : String × EventBody) : List Issue :=
  issues (⟨named.1, named.2.logic, named.2.mode, [], []⟩ : Event Unit)

namespace Store

variable {left : Store σ} {right : Store τ} {package : Package}

/-- The events of a store under their ids, without what the host does. -/
def bodies (store : Store σ) : Table (String × EventBody) :=
  store.events.map fun _ event => (event.id, event.body)

/-- Two stores with the same nodes, where what the host does is left out. -/
structure Alike (left : Store σ) (right : Store τ) : Prop where
  dialogues : left.dialogues = right.dialogues
  choices : left.choices = right.choices
  bodies : left.bodies = right.bodies

theorem contains_events (store : Store σ) (id : String) :
    store.events.contains id = store.bodies.contains id := by
  rw [bodies, Std.ExtTreeMap.contains_map]

theorem eventIssues_eq (store : Store σ) :
    store.events.values.flatMap Event.issues = store.bodies.values.flatMap Event.issuesOf := by
  rw [Table.values_eq_map_toList, Table.values_eq_map_toList, bodies,
    Std.ExtTreeMap.toList_map, List.map_map, List.flatMap_map, List.flatMap_map]
  rfl

namespace Alike

theorem contains (alike : Alike left right) : left.contains = right.contains := by
  funext id
  simp only [Store.contains, alike.dialogues, alike.choices, contains_events, alike.bodies]

theorem kindsOf (alike : Alike left right) (id : String) :
    left.kindsOf id = right.kindsOf id := by
  simp only [Store.kindsOf, alike.dialogues, alike.choices, contains_events, alike.bodies]

theorem distinctIds (alike : Alike left right) : left.distinctIds = right.distinctIds := by
  have keys : left.events.keys = right.events.keys := by
    have same := congrArg Std.ExtTreeMap.keys alike.bodies
    rwa [Store.bodies, Store.bodies, Std.ExtTreeMap.keys_map, Std.ExtTreeMap.keys_map] at same
  simp only [Store.distinctIds, alike.dialogues, alike.choices, keys]

/-- The check finds the same in both. -/
theorem validate (alike : Alike left right) : left.validate = right.validate := by
  have shared : left.sharedIdIssues = right.sharedIdIssues := by
    funext id
    simp only [Store.sharedIdIssues, alike.kindsOf]
  simp only [Store.validate, alike.dialogues, alike.choices, alike.contains, eventIssues_eq,
    alike.bodies, alike.distinctIds, shared]

end Alike

theorem Loaded.getElem?_bodies {bindings : HostBindings σ}
    (loaded : Loaded bindings empty package left) (id : String) :
    left.bodies[id]? = package.events[id]?.map fun body => (id, body) := by
  rw [bodies, Std.ExtTreeMap.getElem?_map]
  cases named : package.events[id]? with
  | none =>
      rw [(loaded.events.kept named).trans Std.ExtTreeMap.getElem?_empty]
      rfl
  | some body =>
      obtain ⟨event, bound, found⟩ := loaded.events.made named
      rw [found, Option.map_some, Option.map_some, EventBody.bind_id bound,
        EventBody.body_of_bind bound]

/-- What two hosts make of a package is alike, whatever they bind. -/
theorem Loaded.alike {bindings : HostBindings σ} {others : HostBindings τ}
    (first : Loaded bindings empty package left) (second : Loaded others empty package right) :
    Alike left right := by
  constructor
  · exact first.dialogues.unique second.dialogues
  · exact first.choices.unique second.choices
  · apply Std.ExtTreeMap.ext_getElem?
    intro id
    rw [first.getElem?_bodies, second.getElem?_bodies]

/-- A package that is built without a host is built for states of any type. -/
theorem exists_alike {strict : Bool} (τ : Type)
    (built : ofPackage package .none strict = .ok left) :
    ∃ right : Store τ, ofPackage package .none strict = .ok right ∧ Alike left right := by
  have lenient {store : Store σ} (built : ofPackage package .none false = .ok store) :
      ∃ right : Store τ, ofPackage package .none false = .ok right ∧ Alike store right := by
    have loaded := load_ok_iff.1 (ofPackage_lenient_iff.1 built)
    obtain ⟨right, other⟩ : ∃ right : Store τ, Loaded .none empty package right := by
      rw [exists_loaded_iff]
      intro id body named
      obtain ⟨_, bound, _⟩ := loaded.events.made named
      exact EventBody.exists_bind_none bound
    exact ⟨right, ofPackage_lenient_iff.2 (load_ok_iff.2 other), loaded.alike other⟩
  cases strict with
  | false => exact lenient built
  | true =>
      obtain ⟨accepted, harmless⟩ := ofPackage_strict_iff.1 built
      obtain ⟨right, other, alike⟩ := lenient accepted
      exact ⟨right, ofPackage_strict_iff.2 ⟨other, alike.validate ▸ harmless⟩, alike⟩

end Store

end BranchingStory
