import BranchingStory.Notation.Story
import BranchingStory.Proofs.Notation.RoundTrip
import BranchingStory.Table

/-!
# Values and the data that say them

A datum says a value when it fits the shape of the value's type and is taken for the value.
The text of such a datum is read as the value.  Texts and numbers are said by data of their
own, and what says the parts of an option, a list, a pair or a table makes up what says the
whole; a table may be listed in any order.
-/

namespace BranchingStory.Notation

open Decimal

variable {plain : Binary64 → Prop} {levels more : Nat} {around : Shape} {datum : Datum}
variable {α β : Type} [Notated α] [Notated β]

/-- The datum says the value and takes at most so many levels of nesting. -/
structure Says (plain : Binary64 → Prop) (levels : Nat) (value : α) (datum : Datum) : Prop where
  fits : ∀ around, Fits plain levels around (Notated.shape α) datum
  returns : ofDatum? datum = some value

theorem Says.mono {value : α} (said : Says plain levels value datum) (enough : levels ≤ more) :
    Says plain more value datum :=
  ⟨fun around => (said.fits around).mono enough, said.returns⟩

theorem Says.begins {value : α} (said : Says plain levels value datum) : Begins (print datum) :=
  (said.fits .enclosing).begins

/-- The text of a datum that says a value is read as the value. -/
theorem readAs_print {value : α} (said : Says plain greatestDepth value datum) :
    readAs α (String.ofList (print datum)) = .ok value := by
  rw [readAs, read_print (said.fits .enclosing)]
  simp only [bind, Except.bind, said.returns]
  rfl

/-! ## Primitives -/

theorem said_string (value : String) : Says plain levels value (toDatum value) :=
  ⟨fun _ => .text value, rfl⟩

theorem contains_iff {range : IntegerRange} {number : Int} :
    range.contains number = true ↔ range.least ≤ number ∧ number ≤ range.greatest := by
  rw [IntegerRange.contains, Bool.and_eq_true, decide_eq_true_eq, decide_eq_true_eq]

theorem said_int64 (value : Int64) : Says plain levels value (toDatum value) where
  fits _ := .integer (by simp) (contains_iff.2 ⟨value.minValue_le_toInt, value.toInt_le⟩)
  returns := congrArg some value.ofInt_toInt

theorem said_int32 (value : Int32) : Says plain levels value (toDatum value) where
  fits _ := .integer (by simp) (contains_iff.2 ⟨value.minValue_le_toInt, value.toInt_le⟩)
  returns := congrArg some value.ofInt_toInt

theorem word64_contains {value : Nat} (small : value < UInt64.size) :
    IntegerRange.word64.contains value = true :=
  contains_iff.2 ⟨Int.natCast_nonneg value, Int.le_sub_one_of_lt (Int.ofNat_lt.2 small)⟩

theorem said_word (value : UInt64) : Says plain levels value (toDatum value) where
  fits _ := .integer (by simp) (word64_contains value.toNat_lt)
  returns := congrArg some value.ofNat_toNat

/-- An index is said if it is one of 64 bits. -/
theorem said_index {value : Nat} (small : value < UInt64.size) :
    Says plain levels value (toDatum value) where
  fits _ := .integer (by simp) (word64_contains small)
  returns := rfl

/-! ## Composites -/

theorem said_option {value : Option α} (definite : (Notated.shape α).isDefinite = true)
    (inner : ∀ held ∈ value, Says plain levels held (toDatum held)) :
    Says plain (levels + 1) value (toDatum value) := by
  cases value with
  | none => exact ⟨fun _ => .absent, rfl⟩
  | some held =>
      have said := inner held rfl
      exact ⟨fun around => .present definite (said.fits around),
        congrArg (Option.map some) said.returns⟩

/-- Where each element gives back what it was made of, so does the list. -/
theorem mapM_map_eq_some {γ δ : Type} {make : γ → δ} {back : δ → Option γ} {items : List γ}
    (each : ∀ item ∈ items, back (make item) = some item) :
    (items.map make).mapM back = some items := by
  induction items with
  | nil => rfl
  | cons item items ih =>
      have others := ih fun item member => each item (List.mem_cons_of_mem _ member)
      rw [List.map_cons, List.mapM_cons, each item List.mem_cons_self, others]
      rfl

theorem said_list {items : List α} (each : ∀ item ∈ items, Says plain levels item (toDatum item)) :
    Says plain (levels + 2) items (toDatum items) where
  fits around := by
    refine .list fun datum member => ?_
    obtain ⟨item, inside, rfl⟩ := List.mem_map.1 member
    exact (each item inside).fits around
  returns := mapM_map_eq_some fun item member => (each item member).returns

theorem said_pair {first : α} {second : β} {left right : Datum}
    (saidFirst : Says plain levels first left) (saidSecond : Says plain levels second right) :
    Says plain (levels + 2) (first, second) (.pair left right) where
  fits around := .pair (saidFirst.fits around) (saidSecond.fits around)
  returns := by
    show (do return (← ofDatum? left, ← ofDatum? right)) = _
    rw [saidFirst.returns, saidSecond.returns]
    rfl

/-- The entries of a table as a datum, in some order. -/
def listing (entries : List (String × α)) : Datum :=
  .table (entries.map fun entry => (entry.1, toDatum entry.2))

theorem said_table {table : Table α} {entries : List (String × α)}
    (listed : entries.Perm table.toList)
    (each : ∀ entry ∈ entries, Says plain levels entry.2 (toDatum entry.2)) :
    Says plain (levels + 2) table (listing entries) where
  fits around := by
    refine .table fun entry member => ?_
    obtain ⟨origin, inside, rfl⟩ := List.mem_map.1 member
    exact (each origin inside).fits around
  returns := by
    have entriesBack : ∀ entry ∈ entries,
        (ofDatum? (toDatum entry.2)).map (fun value : α => (entry.1, value)) = some entry := by
      intro entry member
      rw [(each entry member).returns]
      rfl
    exact (congrArg (Option.map Table.ofEntries) (mapM_map_eq_some entriesBack)).trans
      (congrArg some (Table.ofEntries_of_perm listed))

/-! ## Fields -/

/-- Each entry fits the shape of the field beside it. -/
def EachFits (plain : Binary64 → Prop) (levels : Nat) (around : Shape) (fields : List Field)
    (entries : List (String × Datum)) : Prop :=
  ∀ pair ∈ fields.zip entries, Fits plain levels around pair.1.shape pair.2.2

namespace EachFits

theorem nil : EachFits plain levels around [] [] := by
  intro pair member
  contradiction

theorem cons {field : Field} {fields : List Field} {entry : String × Datum}
    {entries : List (String × Datum)} (first : Fits plain levels around field.shape entry.2)
    (others : EachFits plain levels around fields entries) :
    EachFits plain levels around (field :: fields) (entry :: entries) :=
  List.forall_mem_cons.2 ⟨first, others⟩

end EachFits

end BranchingStory.Notation
