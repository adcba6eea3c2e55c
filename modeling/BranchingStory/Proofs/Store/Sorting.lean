import Mathlib.Data.String.Basic

/-!
# Sorting by id

Ids are sorted, and so are entries that come under ids, where several may have the same one.
Sorted ids are known by what they are.  Sorted entries are known by the entries of each id in
their order, which a stable sorting leaves alone.
-/

namespace BranchingStory

variable {α : Type}

/-- Sorts entries by their ids, and leaves those of one id in the order they had. -/
def sortById (entries : List (String × α)) : List (String × α) :=
  entries.mergeSort fun left right => left.1 ≤ right.1

/-- Sorts ids. -/
def sortIds (ids : List String) : List String := ids.mergeSort fun left right => left ≤ right

theorem sortIds_eq {ids sorted : List String} (listed : ids.Perm sorted)
    (ordered : sorted.Pairwise (· < ·)) : sortIds ids = sorted := by
  have le_trans' (first second third : String) :
      decide (first ≤ second) → decide (second ≤ third) → decide (first ≤ third) := by
    simpa using le_trans
  have le_total' (first second : String) :
      (decide (first ≤ second) || decide (second ≤ first)) = true := by
    simpa using le_total first second
  have sorts : (sortIds ids).Pairwise (· ≤ ·) :=
    (List.pairwise_mergeSort le_trans' le_total' ids).imp of_decide_eq_true
  refine List.Perm.eq_of_pairwise (fun _ _ _ _ => le_antisymm) sorts
    (ordered.imp le_of_lt) ?_
  exact (List.mergeSort_perm ids _).trans listed

theorem sortById_ordered (entries : List (String × α)) :
    (sortById entries).Pairwise fun earlier later => earlier.1 ≤ later.1 := by
  refine (List.pairwise_mergeSort ?_ ?_ entries).imp of_decide_eq_true
  · intro first second third
    simpa using le_trans
  · intro first second
    simpa using le_total first.1 second.1

/-- The sorting is stable. -/
theorem filter_sortById (entries : List (String × α)) (id : String) :
    (sortById entries).filter (·.1 = id) = entries.filter (·.1 = id) := by
  have alike : (entries.filter (·.1 = id)).Pairwise
      fun left right => decide (left.1 ≤ right.1) = true := by
    rw [List.pairwise_filter]
    refine List.pairwise_of_forall fun left right first second => ?_
    rw [of_decide_eq_true first, of_decide_eq_true second]
    exact decide_eq_true le_rfl
  have kept : (entries.filter (·.1 = id)).Sublist (sortById entries) := by
    refine List.sublist_mergeSort ?_ ?_ alike List.filter_sublist
    · intro first second third
      simpa using le_trans
    · intro first second
      simpa using le_total first.1 second.1
  have within := kept.filter (·.1 = id)
  rw [List.filter_filter] at within
  simp only [Bool.and_self] at within
  refine (within.eq_of_length ?_).symm
  exact ((List.mergeSort_perm entries _).filter _).length_eq.symm

theorem least_of_ordered {first : String × α} {entries : List (String × α)}
    (least : ∀ entry ∈ entries, first.1 ≤ entry.1) {entry : String × α}
    (member : entry ∈ first :: entries) : first.1 ≤ entry.1 := by
  cases List.mem_cons.1 member with
  | inl same => exact le_of_eq (congrArg Prod.fst same.symm)
  | inr later => exact least entry later

theorem mem_of_filter_eq {left right : List (String × α)}
    (same : ∀ id, left.filter (·.1 = id) = right.filter (·.1 = id)) {entry : String × α}
    (member : entry ∈ left) : entry ∈ right := by
  have kept : entry ∈ left.filter (·.1 = entry.1) :=
    List.mem_filter.2 ⟨member, decide_eq_true rfl⟩
  rw [same] at kept
  exact List.mem_of_mem_filter kept

/-- Entries in the order of their ids are known by those of each id. -/
theorem eq_of_filter_eq {left right : List (String × α)}
    (leftOrdered : left.Pairwise fun earlier later => earlier.1 ≤ later.1)
    (rightOrdered : right.Pairwise fun earlier later => earlier.1 ≤ later.1)
    (same : ∀ id, left.filter (·.1 = id) = right.filter (·.1 = id)) : left = right := by
  induction left generalizing right with
  | nil =>
      refine (List.eq_nil_iff_forall_not_mem.2 fun entry member => ?_).symm
      exact List.not_mem_nil (mem_of_filter_eq (fun id => (same id).symm) member)
  | cons first left ih =>
      cases right with
      | nil => exact absurd (mem_of_filter_eq same List.mem_cons_self) List.not_mem_nil
      | cons second right =>
          obtain ⟨firstLeast, leftRest⟩ := List.pairwise_cons.1 leftOrdered
          obtain ⟨secondLeast, rightRest⟩ := List.pairwise_cons.1 rightOrdered
          have fromRight := mem_of_filter_eq (fun id => (same id).symm) List.mem_cons_self
          have fromLeft := mem_of_filter_eq same List.mem_cons_self
          have ids : first.1 = second.1 :=
            le_antisymm (least_of_ordered firstLeast fromRight)
              (least_of_ordered secondLeast fromLeft)
          have heads := same first.1
          simp only [List.filter_cons, ids, decide_true, ↓reduceIte, List.cons.injEq] at heads
          obtain ⟨rfl, _⟩ := heads
          have tails (id : String) : left.filter (·.1 = id) = right.filter (·.1 = id) := by
            have whole := same id
            simp only [List.filter_cons] at whole
            split at whole
            · exact (List.cons.inj whole).2
            · exact whole
          rw [ih leftRest rightRest tails]

/-- Items that are each kept or left out. -/
theorem flatMap_ite {β : Type} (keep : α → Bool) (make : α → β) (items : List α) :
    (items.flatMap fun item => if keep item then [make item] else []) =
      (items.filter keep).map make := by
  induction items with
  | nil => rfl
  | cons item items ih =>
      rw [List.flatMap_cons, List.filter_cons, ih]
      cases keep item <;> rfl

/-- Where every id gives entries of its own, those of an id are what it gives. -/
theorem filter_flatMap_own {ids : List String} (distinct : ids.Nodup)
    {gives : String → List (String × α)} (own : ∀ id, ∀ entry ∈ gives id, entry.1 = id)
    (id : String) :
    (ids.flatMap gives).filter (·.1 = id) = if id ∈ ids then gives id else [] := by
  have kept : (gives id).filter (·.1 = id) = gives id :=
    List.filter_eq_self.2 fun entry member => decide_eq_true (own id entry member)
  induction ids with
  | nil => rfl
  | cons first ids ih =>
      obtain ⟨fresh, distinct⟩ := List.nodup_cons.1 distinct
      rw [List.flatMap_cons, List.filter_append, ih distinct]
      by_cases same : first = id
      · subst same
        rw [kept, if_neg fresh, if_pos List.mem_cons_self, List.append_nil]
      · have dropped : (gives first).filter (·.1 = id) = [] := by
          refine List.filter_eq_nil_iff.2 fun entry member named => same ?_
          exact (own first entry member).symm.trans (of_decide_eq_true named)
        have other : id ≠ first := fun equal => same equal.symm
        rw [dropped, List.nil_append]
        simp only [List.mem_cons, other, false_or]

end BranchingStory
