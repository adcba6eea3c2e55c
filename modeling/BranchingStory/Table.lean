import Std.Data.ExtTreeMap

/-!
# Tables keyed by name

A table holds at most one entry a name and is listed in the order of the names, which
compare by code points.  Two tables with the same entries are equal, however they were
built, so what a table lists gives back the table in whatever order it is taken.  `Laid`
says what a table is after the entries of another one were made into its own and laid over
it, and several such steps are one step with the entries overlaid first.
-/

namespace BranchingStory

/-- Entries keyed by name. -/
abbrev Table (α : Type) := Std.ExtTreeMap String α

namespace Table

variable {α : Type} {table : Table α} {entries : List (String × α)} {name : String} {value : α}

/-- The table of some entries; of several that have one name the last is meant. -/
abbrev ofEntries (entries : List (String × α)) : Table α := .ofList entries

/-- The entries of both tables; where both name an entry the second table has it. -/
def overlay (base top : Table α) : Table α := base.insertMany top.toList

/-! ## Listing a table in any order -/

theorem nodup_of_listed (listed : entries.Perm table.toList) : (entries.map Prod.fst).Nodup := by
  rw [(listed.map Prod.fst).nodup_iff, Std.ExtTreeMap.map_fst_toList_eq_keys]
  exact Std.ExtTreeMap.nodup_keys

/-- No name is listed twice, as names compare. -/
theorem distinct_of_listed (listed : entries.Perm table.toList) :
    entries.Pairwise fun left right => ¬compare left.1 right.1 = .eq := by
  simpa only [Std.LawfulEqCmp.compare_eq_iff_eq] using List.pairwise_map.1 (nodup_of_listed listed)

theorem mem_of_listed (listed : entries.Perm table.toList) :
    (name, value) ∈ entries ↔ table[name]? = some value := by
  rw [listed.mem_iff, Std.ExtTreeMap.mem_toList_iff_getElem?_eq_some]

theorem not_mem_of_listed (listed : entries.Perm table.toList) :
    name ∉ entries.map Prod.fst ↔ table[name]? = none := by
  rw [(listed.map Prod.fst).mem_iff, Std.ExtTreeMap.map_fst_toList_eq_keys,
    Std.ExtTreeMap.mem_keys, Std.ExtTreeMap.mem_iff_isSome_getElem?, Option.not_isSome_iff_eq_none]

/-- What a table lists, in any order, fills it again. -/
theorem ofEntries_of_perm (listed : entries.Perm table.toList) : ofEntries entries = table := by
  apply Std.ExtTreeMap.ext_getElem?
  intro name
  cases named : table[name]? with
  | none =>
      have absent := (not_mem_of_listed listed).2 named
      exact Std.ExtTreeMap.getElem?_ofList_of_contains_eq_false (by simpa using absent)
  | some value =>
      exact Std.ExtTreeMap.getElem?_ofList_of_mem Std.ReflCmp.compare_self
        (distinct_of_listed listed) ((mem_of_listed listed).2 named)

/-! ## Laying entries over a table -/

section Laid

variable {β ε : Type} {make : String → α → Except ε β} {base mid after other : Table β}
  {top above : Table α}

/-- A table after the entries of another one were laid over it: each of them was made into
an entry under its name, and what none of them names is as before. -/
structure Laid (make : String → α → Except ε β) (base : Table β) (top : Table α)
    (after : Table β) : Prop where
  made : ∀ {name : String} {entry : α}, top[name]? = some entry →
    ∃ stored, make name entry = .ok stored ∧ after[name]? = some stored
  kept : ∀ {name : String}, top[name]? = none → after[name]? = base[name]?

theorem Laid.unique (laid : Laid make base top after) (also : Laid make base top other) :
    after = other := by
  apply Std.ExtTreeMap.ext_getElem?
  intro name
  cases named : top[name]? with
  | none => rw [laid.kept named, also.kept named]
  | some entry =>
      obtain ⟨stored, made, found⟩ := laid.made named
      obtain ⟨again, remade, refound⟩ := also.made named
      cases made.symm.trans remade
      rw [found, refound]

theorem laid_empty (make : String → α → Except ε β) (base : Table β) :
    Laid make base ∅ base := by
  constructor
  · intro name entry named
    simp at named
  · intro name _
    rfl

/-- Entries that a table lists in some order are laid by inserting what each is made
into. -/
theorem laid_foldl (make : String → α → β) (listed : entries.Perm top.toList)
    (base : Table β) :
    Laid (fun name entry => (.ok (make name entry) : Except ε β)) base top
      (entries.foldl (fun table entry => table.insert entry.1 (make entry.1 entry.2)) base) := by
  have inserted : entries.foldl (fun table entry => table.insert entry.1 (make entry.1 entry.2))
      base = base.insertMany (entries.map fun entry => (entry.1, make entry.1 entry.2)) := by
    rw [Std.ExtTreeMap.insertMany_list_eq_foldl, List.foldl_map]
  rw [inserted]
  constructor
  · intro name entry named
    have member := List.mem_map_of_mem (f := fun entry => (entry.1, make entry.1 entry.2))
      ((mem_of_listed listed).2 named)
    exact ⟨make name entry, rfl, Std.ExtTreeMap.getElem?_insertMany_list_of_mem
      Std.ReflCmp.compare_self (List.pairwise_map.2 (distinct_of_listed listed)) member⟩
  · intro name unnamed
    have absent := (not_mem_of_listed listed).2 unnamed
    exact Std.ExtTreeMap.getElem?_insertMany_list_of_contains_eq_false (by simpa using absent)

/-- Laid over nothing, a table comes back entry by entry. -/
theorem Laid.getElem?_of_empty {make : String → α → β}
    (laid : Laid (fun name entry => (.ok (make name entry) : Except ε β)) ∅ top after)
    (name : String) : after[name]? = top[name]?.map (make name) := by
  cases named : top[name]? with
  | none => exact (laid.kept named).trans Std.ExtTreeMap.getElem?_empty
  | some entry =>
      obtain ⟨_, ⟨⟩, found⟩ := laid.made named
      exact found

/-- What the second table names is meant, and the first one's where it names nothing. -/
theorem getElem?_overlay (base top : Table α) (name : String) :
    (overlay base top)[name]? = top[name]?.or base[name]? := by
  have laid : Laid (fun _ entry => (.ok entry : Except Empty α)) base top (overlay base top) := by
    rw [overlay, Std.ExtTreeMap.insertMany_list_eq_foldl]
    exact laid_foldl (fun _ entry => entry) (.refl _) base
  cases named : top[name]? with
  | none => rw [laid.kept named, Option.none_or]
  | some entry =>
      obtain ⟨_, ⟨⟩, found⟩ := laid.made named
      rw [found, Option.some_or]

theorem overlay_assoc (first second third : Table α) :
    overlay (overlay first second) third = overlay first (overlay second third) := by
  apply Std.ExtTreeMap.ext_getElem?
  intro name
  simp only [getElem?_overlay, Option.or_assoc]

@[simp] theorem overlay_empty (table : Table α) : overlay table ∅ = table := by
  apply Std.ExtTreeMap.ext_getElem?
  intro name
  simp [getElem?_overlay]

@[simp] theorem empty_overlay (table : Table α) : overlay ∅ table = table := by
  apply Std.ExtTreeMap.ext_getElem?
  intro name
  simp [getElem?_overlay]

/-- Laying two tables one after the other is laying the second over the first and then both
at once.  An entry of the first that the second names as well is then not made at all. -/
theorem Laid.trans (lower : Laid make base top mid) (upper : Laid make mid above after) :
    Laid make base (overlay top above) after := by
  constructor
  · intro name entry named
    rw [getElem?_overlay] at named
    cases covered : above[name]? with
    | some covering =>
        rw [covered, Option.some_or] at named
        cases named
        exact upper.made covered
    | none =>
        rw [covered, Option.none_or] at named
        rw [upper.kept covered]
        exact lower.made named
  · intro name unnamed
    rw [getElem?_overlay, Option.or_eq_none_iff] at unnamed
    rw [upper.kept unnamed.1, lower.kept unnamed.2]

end Laid

end Table

end BranchingStory
