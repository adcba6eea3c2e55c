import BranchingStory.Json.Datum
import BranchingStory.Proofs.Json.Text
import BranchingStory.Proofs.Notation.Notated

/-!
# Data read back from JSON

A datum that fits a shape is taken back from the JSON that is made of it, if every number
with a fraction in it is kept.  The JSON has a text that says it, so the way through the text
loses nothing more.  A number that is not finite is written as null, and nothing is read
from that.
-/

namespace BranchingStory.Json

open Decimal Notation

/-- A number is read from what is written for it. -/
def FloatForm.Keeps (form : FloatForm) (number : Binary64) : Prop :=
  form.read? (form.write number) = some number

/-- A number that is not finite is lost. -/
theorem FloatForm.literal_lost {number : Binary64} (infinite : number.isFinite = false) :
    FloatForm.literal.read? (FloatForm.literal.write number) = none := by
  cases number with
  | undefined | infinite => rfl
  | finite => contradiction

variable {form : FloatForm} {plain : Binary64 → Prop} {levels more : Nat}
  {around shape : Shape} {datum : Datum}

/-! ## Fields -/

theorem ofItems_eq_map (items : List Datum) : ofItems form items = items.map (ofDatum form) := by
  induction items with
  | nil => rfl
  | cons item items ih => rw [ofItems, ih, List.map_cons]

theorem ofFields_eq_map (entries : List (String × Datum)) :
    ofFields form entries = entries.map fun entry => (entry.1, ofDatum form entry.2) := by
  induction entries with
  | nil => rfl
  | cons entry entries ih => rw [ofFields, ih, List.map_cons]

/-- Where one element is lost, so is the list. -/
theorem mapM_eq_none_of_mem {α β : Type} {read : α → Option β} {items : List α} {item : α}
    (member : item ∈ items) (lost : read item = none) : items.mapM read = none := by
  induction items with
  | nil => contradiction
  | cons first items ih =>
      rcases List.mem_cons.1 member with rfl | member
      · rw [List.mapM_cons, lost]
        rfl
      · rw [List.mapM_cons, ih member]
        cases read first <;> rfl

section Fields

variable {value : Shape → Json → Option Datum} {fields : List Field}
  {entries : List (String × Datum)}

/-- Members under the names of fields are found one by one. -/
theorem namedFields_ofFields (distinct : (entries.map Prod.fst).Nodup)
    (each : ∀ entry ∈ entries, ∃ field,
      fields.find? (fun field => field.name == entry.1) = some field ∧
      value field.shape (ofDatum form entry.2) = some entry.2) :
    namedFields value fields (ofFields form entries) = some entries := by
  induction entries with
  | nil => rfl
  | cons entry entries ih =>
      obtain ⟨name, datum⟩ := entry
      obtain ⟨field, known, read⟩ := each _ List.mem_cons_self
      rw [List.map_cons, List.nodup_cons] at distinct
      have others := ih distinct.2 fun entry member => each entry (List.mem_cons_of_mem _ member)
      rw [ofFields, namedFields, others]
      simp only [Option.bind_eq_bind, Option.bind_some, known, lookUp_of_not_mem distinct.1, read]
      rfl

/-- All fields of a record are found and completed. -/
theorem fieldsOf_ofFields (named : Named fields entries)
    (each : ∀ pair ∈ fields.zip entries,
      value pair.1.shape (ofDatum form pair.2.2) = some pair.2.2) :
    fieldsOf value fields (.object (ofFields form entries)) = some entries := by
  have found : namedFields value fields (ofFields form entries) = some entries :=
    namedFields_ofFields named.distinct_entries fun entry member => by
      obtain ⟨field, beside, -, known⟩ := named.exists_field member
      exact ⟨field, known, each _ beside⟩
  have completed : complete entries fields = .ok entries :=
    complete_of_found named.names named.distinct_entries fun _ member => member
  rw [fieldsOf, found]
  simp only [Option.bind_eq_bind, Option.bind_some, completed]
  rfl

/-- Where the datum of one field is lost, so are the fields. -/
theorem namedFields_lost {members : List (String × Json)} {name : String} {json : Json}
    (member : (name, json) ∈ members) {field : Field}
    (known : fields.find? (fun field => field.name == name) = some field)
    (lost : value field.shape json = none) : namedFields value fields members = none := by
  induction members with
  | nil => contradiction
  | cons first members ih =>
      rcases List.mem_cons.1 member with rfl | member
      · rw [namedFields]
        cases namedFields value fields members with
        | none => rfl
        | some found =>
            simp only [Option.bind_eq_bind, Option.bind_some, known, lost, Option.bind_none]
            exact ite_self none
      · rw [namedFields, ih member]
        rfl

theorem fieldsOf_lost {members : List (String × Json)} {name : String} {json : Json}
    (member : (name, json) ∈ members) {field : Field}
    (known : fields.find? (fun field => field.name == name) = some field)
    (lost : value field.shape json = none) : fieldsOf value fields (.object members) = none := by
  rw [fieldsOf, namedFields_lost member known lost]
  rfl

end Fields

/-! ## Any datum -/

/-- A datum that is always there is not written as its absence. -/
theorem ofDatum_ne_null (definite : shape.isDefinite = true)
    (fits : Fits plain levels around shape datum) : ofDatum form datum ≠ .null := by
  cases fits with
  | float | absent | present | enclosing => contradiction
  | text | truth | integer | list | table | pair | record | holding | having => exact nofun

theorem numeric?_of_contains {range : IntegerRange} {number : Int}
    (standard : range ∈ [IntegerRange.int32, .int64, .word64])
    (inRange : range.contains number = true) :
    numeric? (integerLiteral number) = some (.integer number) := by
  obtain ⟨low, high⟩ := contains_iff.1 inRange
  simp only [List.mem_cons, List.not_mem_nil, or_false] at standard
  have bounds : -(UInt64.size / 2 : Nat) ≤ range.least ∧ range.greatest ≤ greatestWord := by
    rcases standard with rfl | rfl | rfl <;> decide
  exact numeric?_integer (Int.le_trans bounds.1 low) (Int.le_trans high bounds.2)

section Forms

variable {json : Json} {name case : String} {cases : List Case} {fields : List Field}

theorem toDatum?_integer {range : IntegerRange} {number : Int}
    (worth : numeric? (integerLiteral number) = some (.integer number))
    (inRange : range.contains number = true) :
    toDatum? form (levels + 1) around (.integer range) (ofInt number) =
      some (.integer number) := by
  unfold toDatum? ofInt
  dsimp only
  rw [worth]
  exact if_pos inRange

theorem toDatum?_present (present : json ≠ .null) :
    toDatum? form (levels + 1) around (.optional shape) json =
      (toDatum? form levels around shape json).map .present := by
  cases json with
  | null => contradiction
  | bool | number | string | array | object | unpaired => rfl

theorem toDatum?_list (items : List Json) :
    toDatum? form (levels + 1) around (.list shape) (.array items) =
      (items.mapM (toDatum? form levels around shape)).map .list :=
  rfl

theorem toDatum?_table (members : List (String × Json)) :
    toDatum? form (levels + 1) around (.table shape) (.object members) =
      (members.mapM fun member => (toDatum? form levels around shape member.2).map
        fun datum => (member.1, datum)).map .table :=
  rfl

theorem toDatum?_pair {left right : Shape} {first second : Json} :
    toDatum? form (levels + 1) around (.pair left right) (.array [first, second]) = (do
      return .pair (← toDatum? form levels around left first)
        (← toDatum? form levels around right second)) :=
  rfl

theorem toDatum?_record :
    toDatum? form (levels + 1) around (.record name fields) json =
      (fieldsOf (toDatum? form levels around) fields json).map .record :=
  rfl

theorem toDatum?_holding
    (known : cases.find? (fun known => known.name == case) = some (.holding case shape)) :
    toDatum? form (levels + 1) around (.alternative name cases) (.object [(case, json)]) =
      (toDatum? form levels (.alternative name cases) shape json).map (.holding case) := by
  conv =>
    lhs
    unfold toDatum?
  dsimp only
  rw [known]

theorem toDatum?_having
    (known : cases.find? (fun known => known.name == case) = some (.having case fields)) :
    toDatum? form (levels + 1) around (.alternative name cases) (.object [(case, json)]) =
      (fieldsOf (toDatum? form levels (.alternative name cases)) fields json).map
        (.having case) := by
  unfold toDatum?
  dsimp only
  rw [known]

theorem toDatum?_enclosing :
    toDatum? form (levels + 1) (.alternative name cases) .enclosing json =
      toDatum? form (levels + 1) (.alternative name cases) (.alternative name cases) json :=
  rfl

end Forms

/-- A datum whose numbers are kept is taken from its JSON. -/
theorem toDatum?_ofDatum (fits : Fits form.Keeps levels around shape datum)
    (enough : levels ≤ more) :
    toDatum? form (more + 1) around shape (ofDatum form datum) = some datum := by
  induction fits generalizing more with
  | enclosing _ inner =>
      rw [toDatum?_enclosing]
      exact inner enough
  | text | truth | absent => rfl
  | @float _ _ number kept =>
      show (form.read? (form.write number)).map Datum.float = _
      rw [kept]
      rfl
  | integer standard inRange =>
      exact toDatum?_integer (numeric?_of_contains standard inRange) inRange
  | present definite fits inner =>
      obtain ⟨more, rfl⟩ : ∃ less, more = less + 1 := ⟨more - 1, by omega⟩
      rw [ofDatum, toDatum?_present (ofDatum_ne_null definite fits), inner (by omega)]
      rfl
  | list _ each =>
      obtain ⟨more, rfl⟩ : ∃ less, more = less + 1 := ⟨more - 1, by omega⟩
      rw [ofDatum, ofItems_eq_map, toDatum?_list,
        mapM_map_eq_some fun item member => each item member (by omega)]
      rfl
  | table _ each =>
      obtain ⟨more, rfl⟩ : ∃ less, more = less + 1 := ⟨more - 1, by omega⟩
      rw [ofDatum, ofFields_eq_map, toDatum?_table, mapM_map_eq_some fun entry member => ?_]
      · rfl
      · rw [each entry member (by omega)]
        rfl
  | pair _ _ first second =>
      obtain ⟨more, rfl⟩ : ∃ less, more = less + 1 := ⟨more - 1, by omega⟩
      rw [ofDatum, toDatum?_pair, first (by omega), second (by omega)]
      rfl
  | record named _ each =>
      obtain ⟨more, rfl⟩ : ∃ less, more = less + 1 := ⟨more - 1, by omega⟩
      rw [ofDatum, toDatum?_record,
        fieldsOf_ofFields named fun pair member => each pair member (by omega)]
      rfl
  | holding _ known _ inner =>
      obtain ⟨more, rfl⟩ : ∃ less, more = less + 1 := ⟨more - 1, by omega⟩
      rw [ofDatum, toDatum?_holding known, inner (by omega)]
      rfl
  | having _ known named _ each =>
      obtain ⟨more, rfl⟩ : ∃ less, more = less + 1 := ⟨more - 1, by omega⟩
      rw [ofDatum, toDatum?_having known,
        fieldsOf_ofFields named fun pair member => each pair member (by omega)]
      rfl

/-- The JSON of a datum has a text that says it. -/
theorem printable_ofDatum (fits : Fits plain levels around shape datum) :
    (ofDatum .literal datum).Printable := by
  induction fits with
  | enclosing _ inner => exact inner
  | text content => exact .string content
  | truth value => exact .bool value
  | @float _ _ number _ =>
      cases number with
      | undefined | infinite => exact .null
      | finite negative units fits => exact .number (isLiteral_finite negative fits)
  | integer _ _ => exact .number (isLiteral_integer _)
  | absent => exact .null
  | present _ _ inner => exact inner
  | list _ each =>
      rw [ofDatum, ofItems_eq_map]
      exact .array (List.forall_mem_map.2 each)
  | table _ each =>
      rw [ofDatum, ofFields_eq_map]
      exact .object (List.forall_mem_map.2 each)
  | pair _ _ first second =>
      exact .array (List.forall_mem_cons.2 ⟨first, List.forall_mem_singleton.2 second⟩)
  | record named _ each =>
      rw [ofDatum, ofFields_eq_map]
      refine .object (List.forall_mem_map.2 fun entry member => ?_)
      obtain ⟨field, beside, -⟩ := named.exists_field member
      exact each _ beside
  | holding _ _ _ inner => exact .object (List.forall_mem_singleton.2 inner)
  | having _ _ named _ each =>
      rw [ofDatum, ofFields_eq_map]
      refine .object (List.forall_mem_singleton.2 (.object (List.forall_mem_map.2 ?_)))
      intro entry member
      obtain ⟨field, beside, -⟩ := named.exists_field member
      exact each _ beside

/-- A value is taken back from the text of its JSON. -/
theorem as?_parse?_render {α : Type} [Notated α] {value : α}
    (said : Says FloatForm.literal.Keeps levels value datum) (enough : levels < greatestDepth) :
    (parse? (ofDatum .literal datum).render).bind (as? .literal α) = some value := by
  have read : toDatum? .literal greatestDepth .enclosing (Notated.shape α)
      (ofDatum .literal datum) = some datum :=
    toDatum?_ofDatum (said.fits .enclosing) (Nat.le_of_lt_succ enough)
  rw [parse?_render (printable_ofDatum (said.fits .enclosing)), Option.bind_some, as?, read,
    Option.bind_some, said.returns]

end BranchingStory.Json
