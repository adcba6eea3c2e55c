import BranchingStory.Proofs.Store.Keyed

/-!
# Filling a store node by node

A host may add nodes in any order and replace those that it has added before.  What a store
then holds under a kind and an id is the node of them that was given last, so two hosts that
agree about those have the same store.
-/

namespace BranchingStory

theorem Table.getElem?_insert {α : Type} (table : Table α) (added : α) (key name : String) :
    (table.insert key added)[name]? = if key = name then some added else table[name]? := by
  rw [Std.ExtTreeMap.getElem?_insert]
  simp only [Std.LawfulEqCmp.compare_eq_iff_eq]

variable {σ : Type}

/-- The last of some nodes that has a kind and an id. -/
def lastGiven? (kind : NodeKind) (id : String) (nodes : List (Node σ)) : Option (Node σ) :=
  (nodes.filter fun node => node.kind = kind ∧ node.id = id).getLast?

section

variable {kind : NodeKind} {id : String} {node : Node σ} {nodes : List (Node σ)}

theorem own_of_lastGiven? (given : lastGiven? kind id nodes = some node) :
    node.kind = kind ∧ node.id = id := by
  have member := (List.mem_filter.1 (List.mem_of_getLast? given)).2
  exact of_decide_eq_true member

theorem lastGiven?_cons (kind : NodeKind) (id : String) (node : Node σ)
    (nodes : List (Node σ)) :
    lastGiven? kind id (node :: nodes) =
      (lastGiven? kind id nodes).or
        (if node.kind = kind ∧ node.id = id then some node else none) := by
  unfold lastGiven?
  rw [List.filter_cons]
  by_cases named : node.kind = kind ∧ node.id = id
  · rw [if_pos (decide_eq_true named), if_pos named, List.getLast?_cons]
    cases (nodes.filter _).getLast? <;> rfl
  · rw [if_neg (fun names => named (of_decide_eq_true names)), if_neg named, Option.or_none]

end

namespace Store

/-- Adds a node in place of the one of its kind and id. -/
def insert (store : Store σ) : Node σ → Store σ
  | .dialogue added => store.insertDialogue added
  | .choice added => store.insertChoice added
  | .event added => store.insertEvent added

/-- The store of nodes that are added one after another. -/
def ofNodes (nodes : List (Node σ)) : Store σ := nodes.foldl insert empty

/-- The node of a kind under an id. -/
def nodeOf? (store : Store σ) (kind : NodeKind) (id : String) : Option (Node σ) :=
  match kind with
  | .dialogue => store.dialogues[id]?.map .dialogue
  | .choice => store.choices[id]?.map .choice
  | .event => store.events[id]?.map .event
  | .node => none

theorem nodeOf?_empty (kind : NodeKind) (id : String) :
    (empty : Store σ).nodeOf? kind id = none := by
  cases kind with
  | node => rfl
  | dialogue | choice | event => simp only [nodeOf?, empty, Std.ExtTreeMap.getElem?_empty,
      Option.map_none]

theorem nodeOf?_insert (store : Store σ) (node : Node σ) (kind : NodeKind) (id : String) :
    (store.insert node).nodeOf? kind id =
      if node.kind = kind ∧ node.id = id then some node else store.nodeOf? kind id := by
  cases node with
  | dialogue added =>
      cases kind with
      | dialogue =>
          simp only [insert, insertDialogue, nodeOf?, Table.getElem?_insert, Node.kind, Node.id,
            true_and, apply_ite (Option.map Node.dialogue), Option.map_some]
      | choice | event | node => exact (if_neg fun named => NodeKind.noConfusion named.1).symm
  | choice added =>
      cases kind with
      | choice =>
          simp only [insert, insertChoice, nodeOf?, Table.getElem?_insert, Node.kind, Node.id,
            true_and, apply_ite (Option.map Node.choice), Option.map_some]
      | dialogue | event | node => exact (if_neg fun named => NodeKind.noConfusion named.1).symm
  | event added =>
      cases kind with
      | event =>
          simp only [insert, insertEvent, nodeOf?, Table.getElem?_insert, Node.kind, Node.id,
            true_and, apply_ite (Option.map Node.event), Option.map_some]
      | dialogue | choice | node => exact (if_neg fun named => NodeKind.noConfusion named.1).symm

/-- Further nodes cover those of a store. -/
theorem nodeOf?_foldl_insert (nodes : List (Node σ)) (store : Store σ) (kind : NodeKind)
    (id : String) :
    (nodes.foldl insert store).nodeOf? kind id =
      (lastGiven? kind id nodes).or (store.nodeOf? kind id) := by
  induction nodes generalizing store with
  | nil => rfl
  | cons node nodes ih =>
      rw [List.foldl_cons, ih, nodeOf?_insert, lastGiven?_cons, Option.or_assoc]
      by_cases named : node.kind = kind ∧ node.id = id
      · rw [if_pos named, if_pos named, Option.some_or]
      · rw [if_neg named, if_neg named, Option.none_or]

theorem nodeOf?_ofNodes (nodes : List (Node σ)) (kind : NodeKind) (id : String) :
    (ofNodes nodes).nodeOf? kind id = lastGiven? kind id nodes := by
  rw [ofNodes, nodeOf?_foldl_insert, nodeOf?_empty, Option.or_none]

/-- A store is what it holds under each kind and id. -/
theorem ext_nodeOf? {store other : Store σ}
    (same : ∀ kind id, store.nodeOf? kind id = other.nodeOf? kind id) : store = other := by
  have dialogues : store.dialogues = other.dialogues :=
    Std.ExtTreeMap.ext_getElem? fun {id} =>
      Option.map_injective (fun _ _ => Node.dialogue.inj) (same .dialogue id)
  have choices : store.choices = other.choices :=
    Std.ExtTreeMap.ext_getElem? fun {id} =>
      Option.map_injective (fun _ _ => Node.choice.inj) (same .choice id)
  have events : store.events = other.events :=
    Std.ExtTreeMap.ext_getElem? fun {id} =>
      Option.map_injective (fun _ _ => Node.event.inj) (same .event id)
  cases store
  cases other
  simp only at dialogues choices events
  rw [dialogues, choices, events]

/-- Hosts that gave the same nodes last have the same store. -/
theorem ofNodes_eq {first second : List (Node σ)}
    (same : ∀ kind id, lastGiven? kind id first = lastGiven? kind id second) :
    ofNodes first = ofNodes second := by
  apply ext_nodeOf?
  intro kind id
  rw [nodeOf?_ofNodes, nodeOf?_ofNodes, same]

end Store

end BranchingStory
