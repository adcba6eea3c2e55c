import BranchingStory.Notation.Shape
import BranchingStory.Notation.Fault

/-!
# Data that fit a shape

A datum fits a shape when it has the form that is asked for: its fields are those of the
record in their order, its case is one of the alternative's, and its integers are in range.
The levels of nesting that it takes are counted as reading counts them.  Which numbers with
a fraction are let through is a choice of its own, because not every written form has all
of them.
-/

namespace BranchingStory.Notation

open Decimal

/-- Whether a datum of the shape is always there, so that nothing else can be taken for
its absence. -/
def Shape.isDefinite : Shape → Bool
  | .optional _ | .float | .enclosing => false
  | _ => true

/-- Fields that stand under names of their own, each of which can be written. -/
structure Named (fields : List Field) (entries : List (String × Datum)) : Prop where
  names : entries.map Prod.fst = fields.map Field.name
  distinct : (fields.map Field.name).Nodup
  words : ∀ field ∈ fields, isWord field.name = true

variable {plain : Binary64 → Prop}

/-- The datum fits the shape inside a nearest alternative and takes at most so many levels
of nesting. -/
inductive Fits (plain : Binary64 → Prop) : (levels : Nat) → (around shape : Shape) → Datum →
    Prop where
  | text {levels : Nat} {around : Shape} (content : String) :
      Fits plain levels around .text (.text content)
  | truth {levels : Nat} {around : Shape} (value : Bool) :
      Fits plain levels around .truth (.truth value)
  | float {levels : Nat} {around : Shape} {number : Binary64} (letThrough : plain number) :
      Fits plain levels around .float (.float number)
  | integer {levels : Nat} {around : Shape} {range : IntegerRange} {number : Int}
      (standard : range ∈ [IntegerRange.int32, .int64, .word64])
      (inRange : range.contains number = true) :
      Fits plain levels around (.integer range) (.integer number)
  | absent {levels : Nat} {around shape : Shape} :
      Fits plain levels around (.optional shape) .absent
  | present {levels : Nat} {around shape : Shape} {datum : Datum}
      (definite : shape.isDefinite = true) (inner : Fits plain levels around shape datum) :
      Fits plain (levels + 1) around (.optional shape) (.present datum)
  | list {levels : Nat} {around shape : Shape} {items : List Datum}
      (each : ∀ item ∈ items, Fits plain levels around shape item) :
      Fits plain (levels + 2) around (.list shape) (.list items)
  | table {levels : Nat} {around shape : Shape} {entries : List (String × Datum)}
      (each : ∀ entry ∈ entries, Fits plain levels around shape entry.2) :
      Fits plain (levels + 2) around (.table shape) (.table entries)
  | pair {levels : Nat} {around left right : Shape} {leftDatum rightDatum : Datum}
      (first : Fits plain levels around left leftDatum)
      (second : Fits plain levels around right rightDatum) :
      Fits plain (levels + 2) around (.pair left right) (.pair leftDatum rightDatum)
  | record {levels : Nat} {around : Shape} {name : String} {fields : List Field}
      {entries : List (String × Datum)} (named : Named fields entries)
      (each : ∀ pair ∈ fields.zip entries, Fits plain levels around pair.1.shape pair.2.2) :
      Fits plain (levels + 2) around (.record name fields) (.record entries)
  | holding {levels : Nat} {around shape : Shape} {name case : String} {cases : List Case}
      {datum : Datum} (word : isWord case = true)
      (known : cases.find? (fun known => known.name == case) = some (.holding case shape))
      (inner : Fits plain levels (.alternative name cases) shape datum) :
      Fits plain (levels + 2) around (.alternative name cases) (.holding case datum)
  | having {levels : Nat} {around : Shape} {name case : String} {cases : List Case}
      {fields : List Field} {entries : List (String × Datum)} (word : isWord case = true)
      (known : cases.find? (fun known => known.name == case) = some (.having case fields))
      (named : Named fields entries)
      (each : ∀ pair ∈ fields.zip entries,
        Fits plain levels (.alternative name cases) pair.1.shape pair.2.2) :
      Fits plain (levels + 3) around (.alternative name cases) (.having case entries)
  | enclosing {levels : Nat} {name : String} {cases : List Case} {datum : Datum}
      (inner : Fits plain levels (.alternative name cases) (.alternative name cases) datum) :
      Fits plain levels (.alternative name cases) .enclosing datum

namespace Fits

variable {levels more : Nat} {around shape : Shape} {datum : Datum}

/-- A datum that takes few levels fits where there are more. -/
theorem mono (fits : Fits plain levels around shape datum) (enough : levels ≤ more) :
    Fits plain more around shape datum := by
  induction fits generalizing more with
  | text content => exact .text content
  | truth value => exact .truth value
  | float letThrough => exact .float letThrough
  | integer standard inRange => exact .integer standard inRange
  | absent => exact .absent
  | present definite _ inner =>
      obtain ⟨more, rfl⟩ : ∃ left, more = left + 1 := ⟨more - 1, by omega⟩
      exact .present definite (inner (by omega))
  | list _ each =>
      obtain ⟨more, rfl⟩ : ∃ left, more = left + 2 := ⟨more - 2, by omega⟩
      exact .list fun item member => each item member (by omega)
  | table _ each =>
      obtain ⟨more, rfl⟩ : ∃ left, more = left + 2 := ⟨more - 2, by omega⟩
      exact .table fun entry member => each entry member (by omega)
  | pair _ _ first second =>
      obtain ⟨more, rfl⟩ : ∃ left, more = left + 2 := ⟨more - 2, by omega⟩
      exact .pair (first (by omega)) (second (by omega))
  | record named _ each =>
      obtain ⟨more, rfl⟩ : ∃ left, more = left + 2 := ⟨more - 2, by omega⟩
      exact .record named fun pair member => each pair member (by omega)
  | holding word known _ inner =>
      obtain ⟨more, rfl⟩ : ∃ left, more = left + 2 := ⟨more - 2, by omega⟩
      exact .holding word known (inner (by omega))
  | having word known named _ each =>
      obtain ⟨more, rfl⟩ : ∃ left, more = left + 3 := ⟨more - 3, by omega⟩
      exact .having word known named fun pair member => each pair member (by omega)
  | enclosing _ inner => exact .enclosing (inner enough)

end Fits

namespace Named

variable {fields : List Field} {entries : List (String × Datum)}

/-- Every entry stands beside the field of its name. -/
theorem exists_field (named : Named fields entries) {entry : String × Datum}
    (member : entry ∈ entries) :
    ∃ field, (field, entry) ∈ fields.zip entries ∧ field.name = entry.1 ∧
      fields.find? (fun field => field.name == entry.1) = some field := by
  obtain ⟨names, distinct, -⟩ := named
  induction fields generalizing entries with
  | nil =>
      rw [List.map_nil, List.map_eq_nil_iff] at names
      subst names
      contradiction
  | cons field fields ih =>
      cases entries with
      | nil => contradiction
      | cons first others =>
          obtain ⟨same, names⟩ := List.cons.inj names
          rw [List.map_cons, List.nodup_cons] at distinct
          rcases List.mem_cons.1 member with rfl | member
          · refine ⟨field, List.mem_cons_self, same.symm, ?_⟩
            rw [List.find?_cons_of_pos (by simp [same])]
          · obtain ⟨found, beside, name, known⟩ := ih member names distinct.2
            refine ⟨found, List.mem_cons_of_mem _ beside, name, ?_⟩
            have other : field.name ≠ entry.1 := by
              intro equal
              rw [equal, ← name] at distinct
              exact distinct.1 (List.mem_map.2 ⟨found, (List.of_mem_zip beside).1, rfl⟩)
            rw [List.find?_cons_of_neg (by simp [other]), known]

theorem distinct_entries (named : Named fields entries) : (entries.map Prod.fst).Nodup :=
  named.names ▸ named.distinct

end Named

end BranchingStory.Notation
