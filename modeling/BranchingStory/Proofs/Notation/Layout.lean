import Mathlib.Data.List.Nodup
import BranchingStory.Proofs.Notation.Notated

/-!
# Records laid out otherwise

An author need not write the fields of a record in the order in which they are printed, nor
those that hold what stands in for them.  Such a text is read as what the printed one is, and
where something in it is nested deeper than reading goes, it is refused as the printed one
would be.
-/

namespace BranchingStory.Notation

variable {levels : Nat} {around shape : Shape} {piece : Piece}

/-- Where a datum of the shape is asked for, the piece is taken for what it means, or reading
does not go deep enough for it. -/
def Reads (levels : Nat) (around shape : Shape) (piece : Piece) : Prop :=
  ∀ implicit, Gives (readDatum implicit levels around shape) (print piece.written) piece.shallow
    piece.meant

theorem Fits.reads {plain : Decimal.Binary64 → Prop} {datum : Datum}
    (fits : Fits plain levels around shape datum) :
    Reads levels around shape ⟨datum, datum, true⟩ :=
  fun _ => ⟨fits.begins, readDatum_print fits⟩

theorem Says.reads {plain : Decimal.Binary64 → Prop} {α : Type} [Notated α] {value : α}
    {datum : Datum} (said : Says plain levels value datum) (around : Shape) :
    Reads levels around (Notated.shape α) ⟨datum, datum, true⟩ :=
  (said.fits around).reads

/-- A text is taken for one datum only. -/
theorem Reads.unique {written meant : Datum} {shallow : Bool}
    (reads : Reads levels around shape ⟨written, meant, shallow⟩) {other : Datum}
    (also : Reads levels around shape ⟨written, other, true⟩) : meant = other ∧ shallow = true := by
  have one := (reads false).reads Ends.nil
  have two := (also false).reads Ends.nil
  rw [one] at two
  cases shallow with
  | false => cases two
  | true =>
      cases two
      exact ⟨rfl, rfl⟩

/-! ## Lists and tables -/

section

variable {α : Type} {meant : α → Datum} {shallow : α → Bool}

theorem Reads.list {items : List α} {written : List Datum}
    (each : List.Forall₂ (fun item datum =>
      Reads levels around shape ⟨datum, meant item, shallow item⟩) items written) :
    Reads (levels + 2) around (.list shape)
      ⟨.list written, .list (items.map meant), items.all shallow⟩ := by
  intro implicit
  refine ⟨rfl, fun {rest} _ => ?_⟩
  rw [print_list_append, readDatum_list]
  exact readList_given meant shallow (Nat.le_add_left 1 (levels + 1))
    (List.forall₂_map_right_iff.2 (each.imp fun _ _ reads => reads implicit))

theorem Reads.table {entries : List (String × α)} {written : List (String × Datum)}
    (each : List.Forall₂ (fun entry field => field.1 = entry.1 ∧
      Reads levels around shape ⟨field.2, meant entry.2, shallow entry.2⟩) entries written) :
    Reads (levels + 2) around (.table shape)
      ⟨.table written, .table (entries.map fun entry => (entry.1, meant entry.2)),
        entries.all fun entry => shallow entry.2⟩ := by
  intro implicit
  refine ⟨rfl, fun {rest} _ => ?_⟩
  rw [readDatum_table]
  exact readTable_given meant shallow (Nat.le_add_left 2 levels)
    (each.imp fun _ _ reads => ⟨reads.1, reads.2 implicit⟩)

end

/-! ## Records -/

/-- Fields in any order, without some of those that hold a default. -/
def Arranged (defaults printed shown : List (String × Datum)) : Prop :=
  ∃ omitted, (shown ++ omitted).Perm printed ∧ ∀ entry ∈ omitted, entry ∈ defaults

theorem Arranged.refl (defaults printed : List (String × Datum)) :
    Arranged defaults printed printed :=
  ⟨[], by rw [List.append_nil], fun _ member => absurd member List.not_mem_nil⟩

/-- What stands in for a field of a record could be written there as well. -/
def Stands (levels : Nat) (around : Shape) (fields : List Field) (default : String × Datum) :
    Prop :=
  ∃ field, fields.find? (fun field => field.name == default.1) = some field ∧
    field.fallback = some default.2 ∧
    Reads levels around field.shape ⟨default.2, default.2, true⟩

/-- Where each of some items is what some known one is made into, so are all of them. -/
theorem exists_map_eq {α β : Type} {make : α → β} {known : List α} {items : List β}
    (each : ∀ item ∈ items, ∃ origin ∈ known, make origin = item) :
    ∃ origins : List α, origins.map make = items ∧ ∀ origin ∈ origins, origin ∈ known := by
  induction items with
  | nil => exact ⟨[], rfl, fun _ member => absurd member List.not_mem_nil⟩
  | cons item items ih =>
      obtain ⟨⟨origin, found, rfl⟩, others⟩ := List.forall_mem_cons.1 each
      obtain ⟨origins, rfl, allFound⟩ := ih others
      exact ⟨origin :: origins, rfl, List.forall_mem_cons.2 ⟨found, allFound⟩⟩

/-- An arrangement keeps some of the entries; each of the others holds a default. -/
theorem Arranged.kept {defaults shown : List (String × Datum)} {entries : List (String × Piece)}
    (distinct : (entries.map Prod.fst).Nodup)
    (arranged : Arranged defaults (entries.map Piece.printed) shown) :
    ∃ kept : List (String × Piece), kept.map Piece.printed = shown ∧
      (kept.map Prod.fst).Nodup ∧ (∀ entry ∈ kept, entry ∈ entries) ∧
      ∀ entry ∈ entries, entry ∈ kept ∨
        entry.1 ∉ kept.map Prod.fst ∧ Piece.printed entry ∈ defaults := by
  obtain ⟨omitted, perm, held⟩ := arranged
  obtain ⟨kept, rfl, known⟩ := exists_map_eq fun entry member =>
    List.mem_map.1 (perm.mem_iff.1 (List.mem_append_left omitted member))
  have names : ((kept.map Piece.printed ++ omitted).map Prod.fst).Nodup := by
    rw [(perm.map Prod.fst).nodup_iff, List.map_map]
    exact distinct
  rw [List.map_append, List.map_map, List.nodup_append] at names
  obtain ⟨keptDistinct, _, apart⟩ := names
  refine ⟨kept, rfl, keptDistinct, known, fun entry listed => ?_⟩
  cases List.mem_append.1 (perm.mem_iff.2 (List.mem_map_of_mem listed)) with
  | inl shown =>
      obtain ⟨other, isKept, same⟩ := List.mem_map.1 shown
      have named : (Piece.printed other).1 = (Piece.printed entry).1 := congrArg Prod.fst same
      have equal := List.inj_on_of_nodup_map distinct (known other isKept) listed named
      exact .inl (equal ▸ isKept)
  | inr left =>
      refine .inr ⟨fun named => ?_, held _ left⟩
      exact apart _ named _ (List.mem_map_of_mem left) rfl

section Record

variable {fields : List Field} {entries : List (String × Piece)}
  {defaults shown : List (String × Datum)}

/-- Each entry can be read where the field beside it is asked for. -/
def EachReads (levels : Nat) (around : Shape) (fields : List Field)
    (entries : List (String × Piece)) : Prop :=
  List.Forall₂ (fun field entry => field.name = entry.1 ∧
    Reads levels around field.shape entry.2) fields entries

theorem EachReads.nil : EachReads levels around [] [] :=
  List.Forall₂.nil

theorem EachReads.cons {field : Field} (first : Reads levels around field.shape piece)
    (others : EachReads levels around fields entries) :
    EachReads levels around (field :: fields) ((field.name, piece) :: entries) :=
  List.Forall₂.cons ⟨rfl, first⟩ others

theorem EachReads.names (each : EachReads levels around fields entries) :
    entries.map Prod.fst = fields.map Field.name := by
  induction each with
  | nil => rfl
  | cons first _ ih => rw [List.map_cons, List.map_cons, ih, first.1]

theorem find?_name {field : Field} (distinct : (fields.map Field.name).Nodup)
    (listed : field ∈ fields) :
    fields.find? (fun other => other.name == field.name) = some field := by
  cases known : fields.find? fun other => other.name == field.name with
  | none => exact absurd (beq_self_eq_true _) (List.find?_eq_none.1 known field listed)
  | some found =>
      have named : found.name = field.name := by simpa using List.find?_some known
      rw [List.inj_on_of_nodup_map distinct (List.mem_of_find?_eq_some known) listed named]

theorem exists_beside (each : EachReads levels around fields entries) {entry : String × Piece}
    (listed : entry ∈ entries) : ∃ field, (field, entry) ∈ fields.zip entries := by
  have snds : (fields.zip entries).map Prod.snd = entries :=
    List.map_snd_zip (Nat.le_of_eq each.length_eq.symm)
  rw [← snds] at listed
  obtain ⟨⟨field, _⟩, beside, rfl⟩ := List.mem_map.1 listed
  exact ⟨field, beside⟩

/-- Each entry is given where it is written, whatever the entries around it. -/
theorem EachReads.given (each : EachReads levels around fields entries)
    (distinct : (fields.map Field.name).Nodup)
    (words : ∀ field ∈ fields, isWord field.name = true) {entry : String × Piece}
    (listed : entry ∈ entries) (implicit : Bool) :
    Piece.Given (readDatum implicit levels around) fields entry := by
  obtain ⟨field, beside⟩ := exists_beside each listed
  obtain ⟨named, reads⟩ := List.forall₂_zip each beside
  have known := (List.of_mem_zip beside).1
  have found := find?_name distinct known
  have word := words field known
  rw [named] at found word
  exact ⟨word, field, found, reads implicit⟩

/-- A field that holds what stands in for it is read as that. -/
theorem EachReads.held (each : EachReads levels around fields entries)
    (distinct : (fields.map Field.name).Nodup) {field : Field} {entry : String × Piece}
    (beside : (field, entry) ∈ fields.zip entries)
    (stands : Stands levels around fields (Piece.printed entry)) :
    entry.2.shallow = true ∧ field.fallback = some entry.2.meant := by
  obtain ⟨named, reads⟩ := List.forall₂_zip each beside
  obtain ⟨other, known, fallback, also⟩ := stands
  have found := find?_name distinct (List.of_mem_zip beside).1
  rw [named] at found
  obtain rfl : field = other := Option.some.inj (found.symm.trans known)
  obtain ⟨meant, shallow⟩ := Reads.unique reads also
  exact ⟨shallow, fallback.trans (congrArg some meant.symm)⟩

/-- A record is read from what is written for some of its fields, in any order, where what
stands in for the others is what they hold. -/
theorem Reads.record {name : String} (distinct : (fields.map Field.name).Nodup)
    (words : ∀ field ∈ fields, isWord field.name = true)
    (each : EachReads levels around fields entries)
    (stand : ∀ default ∈ defaults, Stands levels around fields default)
    (arranged : Arranged defaults (entries.map Piece.printed) shown) :
    Reads (levels + 2) around (.record name fields)
      ⟨.record shown, .record (entries.map Piece.said), entries.all (·.2.shallow)⟩ := by
  intro implicit
  refine ⟨rfl, fun {rest} _ => ?_⟩
  have distinctEntries : (entries.map Prod.fst).Nodup := each.names ▸ distinct
  obtain ⟨kept, rfl, keptDistinct, known, left⟩ := arranged.kept distinctEntries
  have given : ∀ entry ∈ kept, Piece.Given (readDatum implicit levels around) fields entry :=
    fun entry isKept => each.given distinct words (known entry isKept) implicit
  have sameDepth : kept.all (·.2.shallow) = entries.all (·.2.shallow) := by
    rw [Bool.eq_iff_iff, List.all_eq_true, List.all_eq_true]
    constructor
    · intro all entry listed
      cases left entry listed with
      | inl isKept => exact all entry isKept
      | inr omitted =>
          obtain ⟨field, beside⟩ := exists_beside each listed
          exact (each.held distinct beside (stand _ omitted.2)).1
    · exact fun all entry isKept => all entry (known entry isKept)
  have completed : complete (kept.map Piece.said).reverse fields =
      .ok (entries.map Piece.said) := by
    refine complete_of_known ?_ (List.forall₂_map_right_iff.2 (List.forall₂_iff_zip.2
      ⟨each.length_eq, fun {field entry} beside => ?_⟩))
    · rw [List.map_reverse, List.map_map]
      exact (List.reverse_perm _).nodup_iff.2 keptDistinct
    · have named := (List.forall₂_zip each beside).1
      refine ⟨named, ?_⟩
      cases left entry (List.of_mem_zip beside).2 with
      | inl isKept =>
          left
          rw [named, List.mem_reverse]
          exact List.mem_map_of_mem isKept
      | inr omitted =>
          refine .inr ⟨?_, (each.held distinct beside (stand _ omitted.2)).2⟩
          rw [named, List.map_reverse, List.mem_reverse, List.map_map]
          exact omitted.1
  have text : print (.record (kept.map Piece.printed)) ++ rest =
      '(' :: (separatedByCommas (printFields (kept.map Piece.printed)) ++ ')' :: rest) := by
    simp
  rw [text, readDatum_record, readFieldList_given (Nat.le_add_left 2 levels) given keptDistinct
    (fun _ => completed), sameDepth, verdict, verdict]
  cases entries.all (·.2.shallow) <;> rfl

/-- Where each field is read as what is printed for it, so is the record in any arrangement. -/
theorem Fits.reads_arranged {plain : Decimal.Binary64 → Prop} {name : String}
    {printed : List (String × Datum)}
    (fits : Fits plain (levels + 2) around (.record name fields) (.record printed))
    (stand : ∀ default ∈ defaults, Stands levels around fields default)
    (arranged : Arranged defaults printed shown) :
    Reads (levels + 2) around (.record name fields) ⟨.record shown, .record printed, true⟩ := by
  cases fits with
  | record named each =>
      have names : List.Forall₂ (fun field entry => field.name = entry.1) fields printed := by
        refine List.forall₂_map_left_iff.1 (List.forall₂_map_right_iff.1 ?_)
        rw [List.forall₂_eq_eq_eq]
        exact named.names.symm
      have eachReads : EachReads levels around fields (printed.map Piece.asWritten) :=
        List.forall₂_map_right_iff.2 (List.forall₂_iff_zip.2 ⟨names.length_eq,
          fun beside => ⟨List.forall₂_zip names beside, (each _ beside).reads⟩⟩)
      rw [← Piece.map_printed_asWritten printed] at arranged
      have reads : Reads (levels + 2) around (.record name fields) _ :=
        Reads.record named.distinct named.words eachReads stand arranged
      rw [Piece.map_said_asWritten, Piece.all_shallow_asWritten] at reads
      exact reads

end Record

/-! ## Values -/

/-- The fields of a record as they are printed. -/
def Datum.fields : Datum → List (String × Datum)
  | .record fields => fields
  | _ => []

/-- The fields that a record is asked for. -/
def Shape.fields : Shape → List Field
  | .record _ fields => fields
  | _ => []

theorem reads_absent : Reads levels around (.optional shape) ⟨.absent, .absent, true⟩ :=
  (Fits.absent : Fits (fun _ => False) levels around (.optional shape) .absent).reads

theorem reads_text (text : String) :
    Reads levels around .text ⟨.text text, .text text, true⟩ :=
  (Fits.text text : Fits (fun _ => False) levels around .text (.text text)).reads

section

variable {α : Type} [Notated α] {laidOut : α → Datum → Prop}

/-- Items that are each laid out some way are read as the items. -/
theorem reads_laidOut_list
    (reads : ∀ {item datum}, laidOut item datum →
      Reads levels around (Notated.shape α) ⟨datum, toDatum item, true⟩)
    {items : List α} {data : List Datum} (each : List.Forall₂ laidOut items data) :
    Reads (levels + 2) around (Notated.shape (List α)) ⟨.list data, toDatum items, true⟩ := by
  have list : Reads (levels + 2) around (.list (Notated.shape α)) _ :=
    Reads.list (each.imp fun _ _ laid => reads laid)
  have all : (items.all fun _ => true) = true := List.all_eq_true.2 fun _ _ => rfl
  rw [all] at list
  exact list

/-- A datum lays out a table: its entries come in some order, and each of them is laid out
some way. -/
structure Lays (laidOut : α → Datum → Prop) (table : Table α) (entries : List (String × α))
    (written : Datum) : Prop where
  listed : entries.Perm table.toList
  laid : ∃ fields, written = .table fields ∧
    List.Forall₂ (fun entry field => field.1 = entry.1 ∧ laidOut entry.2 field.2) entries fields

variable {written meant : Datum}

theorem Lays.reads {table : Table α} {entries : List (String × α)} {shallow : α → Bool}
    (lays : Lays laidOut table entries written)
    (reads : ∀ {item datum}, laidOut item datum →
      Reads levels around (Notated.shape α) ⟨datum, toDatum item, shallow item⟩) :
    Reads (levels + 2) around (Notated.shape (Table α))
      ⟨written, listing entries, entries.all fun entry => shallow entry.2⟩ := by
  obtain ⟨fields, rfl, each⟩ := lays.laid
  exact Reads.table (each.imp fun _ _ laid => ⟨laid.1, reads laid.2⟩)

theorem read_of_reads {shallow : Bool}
    (reads : Reads greatestDepth .enclosing shape ⟨written, meant, shallow⟩) :
    read shape (String.ofList (print written)) =
      if shallow then .ok meant else .error .tooDeep := by
  have gives := reads false
  have parsed := gives.reads Ends.nil
  rw [List.append_nil] at parsed
  rw [read_of_begins gives.begins, parsed, verdict]
  cases shallow <;> rfl

/-- A text that is read as a datum of a value is read as the value. -/
theorem readAs_of_reads {value : α}
    (reads : Reads greatestDepth .enclosing (Notated.shape α) ⟨written, meant, true⟩)
    (returns : ofDatum? meant = some value) :
    readAs α (String.ofList (print written)) = .ok value := by
  rw [readAs, read_of_reads reads]
  simp only [↓reduceIte, bind, Except.bind, returns]
  rfl

/-- Where reading does not go deep enough for what is in a text, the text is refused. -/
theorem readAs_of_tooDeep
    (reads : Reads greatestDepth .enclosing (Notated.shape α) ⟨written, meant, false⟩) :
    readAs α (String.ofList (print written)) = .error .tooDeep := by
  rw [readAs, read_of_reads reads]
  rfl

end

end BranchingStory.Notation
