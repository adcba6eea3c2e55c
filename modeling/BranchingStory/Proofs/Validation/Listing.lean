import BranchingStory.Proofs.Store.Insertion
import BranchingStory.Proofs.Store.Sorting
import BranchingStory.Proofs.Validation.Report

/-!
# The order of reports and ids

What a host is told of a store is in an order of its own: kind after kind and id after id.
It does not depend on the order in which nodes were added, nor on the one in which a table
of some other make would list its ids.  Sorting brings any such listing into the one order;
where ids are shared, the sorting has to be stable, since only the order of the kinds tells
equal ids apart.
-/

namespace BranchingStory

open Validation

variable {σ : Type}

/-- The kinds of node that a store holds.  A shared id means the first of them. -/
def Store.kinds : List NodeKind := [.dialogue, .choice, .event]

/-! ## What a store lists, kind by kind -/

namespace Table

variable {α : Type}

theorem keys_ordered (table : Table α) : table.keys.Pairwise (· < ·) :=
  Std.ExtTreeMap.ordered_keys.imp compare_lt_iff_lt.1

/-- The values in order are those of the names in order. -/
theorem flatMap_values_eq {β : Type} (table : Table α) (gives : α → List β) :
    table.values.flatMap gives =
      table.keys.flatMap fun name => (table[name]?.map gives).getD [] := by
  rw [values_eq_map_toList, ← Std.ExtTreeMap.map_fst_toList_eq_keys, List.flatMap_map,
    List.flatMap_map]
  refine List.flatMap_congr fun entry listed => ?_
  rw [Std.ExtTreeMap.mem_toList_iff_getElem?_eq_some.1 listed]
  rfl

end Table

/-- The issues of a node, where some ids are known. -/
def Node.issues (known : String → Bool) : Node σ → List Issue
  | .dialogue found => found.issues known
  | .choice found => found.issues known
  | .event found => found.issues

/-- The issues of a node are of its kind and under its id. -/
theorem Node.issue_own {known : String → Bool} {node : Node σ} {issue : Issue}
    (member : issue ∈ node.issues known) :
    issue.kind = node.kind ∧ issue.id = node.id ∧
      ∀ kinds, issue.problem ≠ .duplicateId kinds := by
  cases node with
  | dialogue found =>
      obtain ⟨line, problem, rfl, reported⟩ := Dialogue.reported_of_mem member
      refine ⟨rfl, rfl, fun kinds => ?_⟩
      cases reported <;> exact Problem.noConfusion
  | choice found =>
      obtain ⟨line, problem, rfl, reported⟩ := Choice.reported_of_mem member
      refine ⟨rfl, rfl, fun kinds => ?_⟩
      cases reported <;> exact Problem.noConfusion
  | event found =>
      obtain ⟨line, problem, rfl, reported⟩ := Event.reported_of_mem member
      refine ⟨rfl, rfl, fun kinds => ?_⟩
      cases reported <;> exact Problem.noConfusion

namespace Store

variable {store : Store σ} {kind : NodeKind} {id : String}

/-- The ids of the nodes of a kind, in order. -/
def idsOf (store : Store σ) : NodeKind → List String
  | .dialogue => store.dialogues.keys
  | .choice => store.choices.keys
  | .event => store.events.keys
  | .node => []

/-- The issues of the node of a kind under an id. -/
def issuesOf (store : Store σ) (kind : NodeKind) (id : String) : List Issue :=
  ((store.nodeOf? kind id).map (Node.issues store.contains)).getD []

theorem idsOf_ordered (store : Store σ) (kind : NodeKind) :
    (store.idsOf kind).Pairwise (· < ·) := by
  cases kind with
  | dialogue | choice | event => exact Table.keys_ordered _
  | node => exact .nil

theorem mem_idsOf : id ∈ store.idsOf kind ↔ (store.nodeOf? kind id).isSome = true := by
  cases kind with
  | dialogue | choice | event =>
      rw [idsOf, nodeOf?, Std.ExtTreeMap.mem_keys, Std.ExtTreeMap.mem_iff_isSome_getElem?,
        Option.isSome_map]
  | node => exact ⟨fun member => absurd member List.not_mem_nil, fun found => by contradiction⟩

theorem kindsOf_eq (store : Store σ) (id : String) :
    store.kindsOf id = kinds.filter fun kind => (store.nodeOf? kind id).isSome := by
  unfold kindsOf
  simp only [Std.ExtTreeMap.contains_eq_isSome_getElem?, kinds, List.filter_cons, nodeOf?,
    Option.isSome_map]
  cases store.dialogues[id]? <;> cases store.choices[id]? <;> cases store.events[id]? <;> rfl

theorem contains_eq (store : Store σ) (id : String) :
    store.contains id = kinds.any fun kind => (store.nodeOf? kind id).isSome := by
  simp only [contains, Std.ExtTreeMap.contains_eq_isSome_getElem?, kinds, List.any_cons,
    List.any_nil, nodeOf?, Option.isSome_map, Bool.or_false, Bool.or_assoc]

/-- The check goes kind by kind and id by id, and through the shared ids at last. -/
theorem validate_eq (store : Store σ) :
    store.validate =
      (kinds.flatMap fun kind => (store.idsOf kind).flatMap (store.issuesOf kind)) ++
        store.distinctIds.flatMap store.sharedIdIssues := by
  have listed {α : Type} (table : Table α) (wrap : α → Node σ) :
      table.values.flatMap (fun found => (wrap found).issues store.contains) =
        table.keys.flatMap fun id =>
          ((table[id]?.map wrap).map (Node.issues store.contains)).getD [] := by
    simp only [Option.map_map]
    exact table.flatMap_values_eq _
  have dialogues := listed store.dialogues .dialogue
  have choices := listed store.choices .choice
  have events := listed store.events .event
  simp only [Node.issues] at dialogues choices events
  simp only [validate, kinds, List.flatMap_cons, List.flatMap_nil, List.append_nil,
    List.append_assoc]
  rw [dialogues, choices, events]
  rfl

theorem distinctIds_ordered (store : Store σ) : store.distinctIds.Pairwise (· < ·) :=
  Table.keys_ordered _

theorem distinctIds_distinct (store : Store σ) : store.distinctIds.Nodup :=
  store.distinctIds_ordered.imp ne_of_lt

theorem mem_kindsOf : kind ∈ store.kindsOf id ↔ (store.nodeOf? kind id).isSome = true := by
  rw [kindsOf_eq, List.mem_filter]
  cases kind with
  | dialogue | choice | event => exact and_iff_right (by decide)
  | node => exact ⟨fun held => held.2, fun found => by contradiction⟩

theorem mem_distinctIds_iff : id ∈ store.distinctIds ↔ ∃ kind, id ∈ store.idsOf kind := by
  rw [mem_distinctIds, contains_eq, List.any_eq_true]
  constructor
  · intro ⟨kind, _, found⟩
    exact ⟨kind, mem_idsOf.2 found⟩
  · intro ⟨kind, member⟩
    have held := mem_kindsOf.2 (mem_idsOf.1 member)
    rw [kindsOf_eq] at held
    exact ⟨kind, List.mem_of_mem_filter held, mem_idsOf.1 member⟩

/-- The entries of an id in the list of all ids are its kinds. -/
theorem filter_ids (store : Store σ) (id : String) :
    store.ids.filter (·.1 = id) = (store.kindsOf id).map fun kind => (id, kind) := by
  rw [ids, filter_flatMap_own store.distinctIds_distinct]
  · by_cases known : id ∈ store.distinctIds
    · rw [if_pos known]
    · have none : store.kindsOf id = [] :=
        List.eq_nil_iff_forall_not_mem.2 fun kind held =>
          known (mem_distinctIds_iff.2 ⟨kind, mem_idsOf.2 (mem_kindsOf.1 held)⟩)
      rw [if_neg known, none, List.map_nil]
  · intro id entry member
    obtain ⟨kind, _, rfl⟩ := List.mem_map.1 member
    rfl

theorem ids_ordered (store : Store σ) :
    store.ids.Pairwise fun earlier later => earlier.1 ≤ later.1 := by
  refine List.pairwise_flatMap.2 ⟨fun id _ => ?_, store.distinctIds_ordered.imp ?_⟩
  · exact List.pairwise_map.2 (List.pairwise_of_forall fun _ _ => le_rfl)
  · intro earlier later less first firstListed second secondListed
    obtain ⟨_, _, rfl⟩ := List.mem_map.1 firstListed
    obtain ⟨_, _, rfl⟩ := List.mem_map.1 secondListed
    exact le_of_lt less

theorem ids_distinct (store : Store σ) : store.ids.Nodup := by
  refine List.pairwise_flatMap.2 ⟨fun id _ => ?_, store.distinctIds_ordered.imp ?_⟩
  · rw [List.pairwise_map, kindsOf_eq]
    have once : kinds.Nodup := by decide
    exact (once.filter _).imp fun different same => different (congrArg Prod.snd same)
  · intro earlier later less first firstListed second secondListed same
    obtain ⟨_, _, rfl⟩ := List.mem_map.1 firstListed
    obtain ⟨_, _, rfl⟩ := List.mem_map.1 secondListed
    exact ne_of_lt less (congrArg Prod.fst same)

theorem mem_ids : (id, kind) ∈ store.ids ↔ (store.nodeOf? kind id).isSome = true := by
  have kept : (id, kind) ∈ store.ids ↔ (id, kind) ∈ store.ids.filter (·.1 = id) := by
    rw [List.mem_filter, and_iff_left (decide_eq_true rfl)]
  rw [kept, filter_ids, ← mem_kindsOf]
  constructor
  · intro member
    obtain ⟨_, held, same⟩ := List.mem_map.1 member
    cases same
    exact held
  · exact List.mem_map_of_mem

/-! ## Tables that list their ids in any order -/

/-- The orders in which the ids of the nodes of each kind come, and one in which all ids
come, as tables without an order of their own would list them. -/
structure Listing (store : Store σ) where
  ids : NodeKind → List String
  all : List String
  ids_perm : ∀ kind, (ids kind).Perm (store.idsOf kind)
  all_distinct : all.Nodup
  mem_all : ∀ {id}, id ∈ all ↔ ∃ kind, id ∈ ids kind

/-- The tables list their ids from the last to the first. -/
def Listing.reversed (store : Store σ) : Listing store where
  ids kind := (store.idsOf kind).reverse
  all := store.distinctIds.reverse
  ids_perm kind := List.reverse_perm _
  all_distinct := (List.reverse_perm _).nodup_iff.2 store.distinctIds_distinct
  mem_all := by simp only [List.mem_reverse, mem_distinctIds_iff, implies_true]

namespace Listing

/-- The check of a store whose tables list their ids so, which are sorted first. -/
def validate (listing : Listing store) : List Issue :=
  (kinds.flatMap fun kind => (sortIds (listing.ids kind)).flatMap (store.issuesOf kind)) ++
    (sortIds listing.all).flatMap store.sharedIdIssues

/-- All ids with their kinds: those of each kind one after another, and then sorted. -/
def allIds (listing : Listing store) : List (String × NodeKind) :=
  sortById (kinds.flatMap fun kind => (listing.ids kind).map fun id => (id, kind))

theorem validate_eq (listing : Listing store) : listing.validate = store.validate := by
  have sorted (kind : NodeKind) : sortIds (listing.ids kind) = store.idsOf kind :=
    sortIds_eq (listing.ids_perm kind) (store.idsOf_ordered kind)
  have all : listing.all.Perm store.distinctIds := by
    refine (List.perm_ext_iff_of_nodup listing.all_distinct store.distinctIds_distinct).2 ?_
    intro id
    rw [listing.mem_all, mem_distinctIds_iff]
    exact exists_congr fun kind => (listing.ids_perm kind).mem_iff
  rw [validate, store.validate_eq, sortIds_eq all store.distinctIds_ordered]
  simp only [sorted]

theorem allIds_eq (listing : Listing store) : listing.allIds = store.ids := by
  refine eq_of_filter_eq (sortById_ordered _) store.ids_ordered fun id => ?_
  have own (kind : NodeKind) : ((listing.ids kind).map fun id => (id, kind)).filter (·.1 = id) =
      if (store.nodeOf? kind id).isSome then [(id, kind)] else [] := by
    have distinct : (listing.ids kind).Nodup :=
      (listing.ids_perm kind).nodup_iff.2 ((store.idsOf_ordered kind).imp ne_of_lt)
    rw [List.map_eq_flatMap, filter_flatMap_own distinct]
    · simp only [(listing.ids_perm kind).mem_iff, mem_idsOf]
    · intro id entry member
      rw [List.mem_singleton.1 member]
  rw [allIds, filter_sortById, List.filter_flatMap, store.filter_ids, store.kindsOf_eq]
  simp only [own]
  exact flatMap_ite _ _ _

end Listing

end Store

/-! ## What hosts are told that have given nodes -/

/-- The kinds of the nodes that have been given under an id. -/
def kindsGiven (nodes : List (Node σ)) (id : String) : List NodeKind :=
  Store.kinds.filter fun kind => (lastGiven? kind id nodes).isSome

/-- Whether a node of any kind has been given under an id. -/
def isGiven (nodes : List (Node σ)) (id : String) : Bool :=
  Store.kinds.any fun kind => (lastGiven? kind id nodes).isSome

/-- The issues of the nodes of one kind, in the order of their ids. -/
structure Group (nodes : List (Node σ)) (kind : NodeKind) (issues : List Issue) : Prop where
  kind_eq : ∀ issue ∈ issues, issue.kind = kind
  ordered : issues.Pairwise fun earlier later => earlier.id ≤ later.id
  unshared : ∀ issue ∈ issues, ∀ kinds, issue.problem ≠ .duplicateId kinds
  mem_iff : ∀ issue, issue ∈ issues ↔ ∃ node, lastGiven? kind issue.id nodes = some node ∧
    issue ∈ node.issues (isGiven nodes)

/-- The issues of the dialogues, of the choices and of the events, and at last one of each
id that several kinds of node have, which names those kinds. -/
inductive Reports (nodes : List (Node σ)) : List Issue → Prop where
  | groups {ofDialogues ofChoices ofEvents : List Issue} {shared : List String}
      (dialogues : Group nodes .dialogue ofDialogues)
      (choices : Group nodes .choice ofChoices)
      (events : Group nodes .event ofEvents)
      (ordered : shared.Pairwise (· < ·))
      (mem_shared : ∀ id, id ∈ shared ↔ 2 ≤ (kindsGiven nodes id).length) :
      Reports nodes (ofDialogues ++ ofChoices ++ ofEvents ++
        shared.map fun id => ⟨.node, id, none, .duplicateId (kindsGiven nodes id)⟩)

/-- The id and the kind of each node, once each and in the order of the ids. -/
structure Lists (nodes : List (Node σ)) (ids : List (String × NodeKind)) : Prop where
  ordered : ids.Pairwise fun earlier later => earlier.1 ≤ later.1
  distinct : ids.Nodup
  mem_iff : ∀ id kind, (id, kind) ∈ ids ↔ ∃ node, lastGiven? kind id nodes = some node

namespace Store

section

variable (nodes : List (Node σ))

theorem kindsOf_ofNodes (id : String) : (ofNodes nodes).kindsOf id = kindsGiven nodes id := by
  simp only [kindsOf_eq, kindsGiven, nodeOf?_ofNodes]

theorem contains_ofNodes : (ofNodes nodes).contains = isGiven nodes := by
  funext id
  simp only [contains_eq, isGiven, nodeOf?_ofNodes]

theorem group_ofNodes (kind : NodeKind) :
    Group nodes kind
      (((ofNodes nodes).idsOf kind).flatMap ((ofNodes nodes).issuesOf kind)) := by
  have mem_issuesOf {id : String} {issue : Issue} :
      issue ∈ (ofNodes nodes).issuesOf kind id ↔ ∃ node, lastGiven? kind id nodes = some node ∧
        issue ∈ node.issues (isGiven nodes) := by
    rw [issuesOf, nodeOf?_ofNodes, contains_ofNodes]
    cases lastGiven? kind id nodes with
    | none => simp
    | some node => simp
  have own {id : String} {issue : Issue} (member : issue ∈ (ofNodes nodes).issuesOf kind id) :
      issue.kind = kind ∧ issue.id = id ∧ ∀ kinds, issue.problem ≠ .duplicateId kinds := by
    obtain ⟨node, given, told⟩ := mem_issuesOf.1 member
    obtain ⟨sameKind, sameId⟩ := own_of_lastGiven? given
    obtain ⟨ofKind, underId, unshared⟩ := Node.issue_own told
    exact ⟨ofKind.trans sameKind, underId.trans sameId, unshared⟩
  constructor
  · intro issue member
    obtain ⟨id, _, told⟩ := List.mem_flatMap.1 member
    exact (own told).1
  · refine List.pairwise_flatMap.2 ⟨fun id _ => ?_, ((ofNodes nodes).idsOf_ordered kind).imp ?_⟩
    · exact List.pairwise_of_forall_mem_list fun first firstTold second secondTold =>
        le_of_eq ((own firstTold).2.1.trans (own secondTold).2.1.symm)
    · intro earlier later less first firstTold second secondTold
      rw [(own firstTold).2.1, (own secondTold).2.1]
      exact le_of_lt less
  · intro issue member
    obtain ⟨id, _, told⟩ := List.mem_flatMap.1 member
    exact (own told).2.2
  · intro issue
    rw [← mem_issuesOf, List.mem_flatMap]
    constructor
    · intro ⟨id, _, told⟩
      rwa [(own told).2.1]
    · intro told
      obtain ⟨node, given, _⟩ := mem_issuesOf.1 told
      refine ⟨issue.id, mem_idsOf.2 ?_, told⟩
      rw [nodeOf?_ofNodes, given]
      rfl

/-- The ids that several kinds of node have. -/
def sharedIds : List String :=
  (ofNodes nodes).distinctIds.filter fun id => 2 ≤ (kindsGiven nodes id).length

theorem mem_sharedIds (id : String) :
    id ∈ sharedIds nodes ↔ 2 ≤ (kindsGiven nodes id).length := by
  rw [sharedIds, List.mem_filter, decide_eq_true_iff]
  refine and_iff_right_of_imp fun several => ?_
  obtain ⟨kind, held⟩ := List.exists_mem_of_length_pos (Nat.lt_of_lt_of_le Nat.two_pos several)
  rw [← kindsOf_ofNodes] at held
  exact mem_distinctIds_iff.2 ⟨kind, mem_idsOf.2 (mem_kindsOf.1 held)⟩

theorem flatMap_sharedIdIssues :
    (ofNodes nodes).distinctIds.flatMap (ofNodes nodes).sharedIdIssues =
      (sharedIds nodes).map fun id =>
        ⟨.node, id, none, .duplicateId (kindsGiven nodes id)⟩ := by
  rw [sharedIds, ← flatMap_ite]
  refine List.flatMap_congr fun id _ => ?_
  simp only [sharedIdIssues, kindsOf_ofNodes, decide_eq_true_iff]
  rfl

theorem reports_ofNodes : Reports nodes (ofNodes nodes).validate := by
  have ordered : (sharedIds nodes).Pairwise (· < ·) :=
    (ofNodes nodes).distinctIds_ordered.filter _
  have reports := Reports.groups (group_ofNodes nodes .dialogue) (group_ofNodes nodes .choice)
    (group_ofNodes nodes .event) ordered (mem_sharedIds nodes)
  rw [← flatMap_sharedIdIssues] at reports
  rw [validate_eq]
  simp only [kinds, List.flatMap_cons, List.flatMap_nil, List.append_nil, List.append_assoc]
    at reports ⊢
  exact reports

theorem lists_ofNodes : Lists nodes (ofNodes nodes).ids := by
  refine ⟨ids_ordered _, ids_distinct _, fun id kind => ?_⟩
  rw [mem_ids, nodeOf?_ofNodes, Option.isSome_iff_exists]

end

/-- Two hosts that gave the same nodes last, in whatever order and with whatever replacements
before, are told the same: the issues of the dialogues, the choices and the events, each in
the order of the ids, one issue of each id that several kinds have, and all ids in order.
Tables that list their ids in any other order change nothing. -/
theorem told_alike {first second : List (Node σ)}
    (same : ∀ kind id, lastGiven? kind id first = lastGiven? kind id second)
    (listing : Listing (ofNodes second)) :
    Reports first (ofNodes first).validate ∧ Lists first (ofNodes first).ids ∧
    (ofNodes second).validate = (ofNodes first).validate ∧
    (ofNodes second).ids = (ofNodes first).ids ∧
    listing.validate = (ofNodes first).validate ∧ listing.allIds = (ofNodes first).ids := by
  have equal : ofNodes first = ofNodes second := ofNodes_eq same
  refine ⟨reports_ofNodes first, lists_ofNodes first, ?_, ?_, ?_, ?_⟩
  · rw [equal]
  · rw [equal]
  · rw [listing.validate_eq, equal]
  · rw [listing.allIds_eq, equal]

/-- A draft of a dialogue that is replaced later makes no difference, nor does the choice of
the same id, which is added before or after. -/
theorem told_alike_lantern :
    let draft : Node Variables := .dialogue ⟨"lantern", some "wick", []⟩
    let final : Node Variables := .dialogue ⟨"lantern", none, []⟩
    let pick : Node Variables := .choice ⟨"lantern", []⟩
    let first := [draft, pick, final]
    let second := [final, pick]
    (∀ kind id, lastGiven? kind id first = lastGiven? kind id second) ∧
    Reports first (ofNodes first).validate ∧ Lists first (ofNodes first).ids ∧
    (Listing.reversed (ofNodes second)).validate = (ofNodes first).validate ∧
    (Listing.reversed (ofNodes second)).allIds = (ofNodes first).ids := by
  intro draft final pick first second
  have same (kind : NodeKind) (id : String) :
      lastGiven? kind id first = lastGiven? kind id second := by
    by_cases named : id = "lantern"
    · subst named
      cases kind <;> rfl
    · have other : "lantern" ≠ id := fun equal => named equal.symm
      simp [lastGiven?, first, second, draft, final, pick, Node.id, other]
  obtain ⟨reports, lists, _, _, validated, listed⟩ :=
    told_alike same (Listing.reversed (ofNodes second))
  exact ⟨same, reports, lists, validated, listed⟩

end Store

end BranchingStory
