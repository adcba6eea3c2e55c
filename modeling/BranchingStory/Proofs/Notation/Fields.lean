import BranchingStory.Notation.Reader
import BranchingStory.Proofs.Notation.Scan

/-!
# Fields read back

Fields that are written under names of their own are found under these names, in whatever
order they stand, and completing them gives back every one of them in the order of the
record, those that were left out included.
-/

namespace BranchingStory.Notation

variable {found entries : List (String × Datum)} {name : String} {datum : Datum}

theorem lookUp_of_mem (distinct : (found.map Prod.fst).Nodup)
    (member : (name, datum) ∈ found) : lookUp name found = some datum := by
  induction found with
  | nil => contradiction
  | cons first others ih =>
      obtain ⟨other, value⟩ := first
      rw [List.map_cons, List.nodup_cons] at distinct
      rcases List.mem_cons.1 member with same | member
      · cases same
        rw [lookUp, if_pos rfl]
      · have later : name ∈ others.map Prod.fst := List.mem_map.2 ⟨_, member, rfl⟩
        have different : other ≠ name := by
          rintro rfl
          exact distinct.1 later
        rw [lookUp, if_neg different, ih distinct.2 member]

theorem lookUp_of_not_mem (absent : name ∉ found.map Prod.fst) : lookUp name found = none := by
  induction found with
  | nil => rfl
  | cons first others ih =>
      obtain ⟨other, value⟩ := first
      rw [List.map_cons, List.mem_cons, not_or] at absent
      rw [lookUp, if_neg (Ne.symm absent.1), ih absent.2]

/-- A field that was found with a datum, or one that the datum stands in for. -/
def Known (found : List (String × Datum)) (field : Field) (datum : Datum) : Prop :=
  (field.name, datum) ∈ found ∨
    field.name ∉ found.map Prod.fst ∧ field.fallback = some datum

theorem Known.value {field : Field} (distinct : (found.map Prod.fst).Nodup)
    (known : Known found field datum) :
    (lookUp field.name found).or field.fallback = some datum := by
  cases known with
  | inl member => rw [lookUp_of_mem distinct member, Option.some_or]
  | inr left => rw [lookUp_of_not_mem left.1, Option.none_or, left.2]

/-- Where each field is known, completing them gives them in the order of the record. -/
theorem complete_of_known {fields : List Field} (distinct : (found.map Prod.fst).Nodup)
    (known : List.Forall₂ (fun field entry => field.name = entry.1 ∧ Known found field entry.2)
      fields entries) : complete found fields = .ok entries := by
  induction known with
  | nil => rfl
  | @cons field entry fields entries first _ ih =>
      obtain ⟨name, datum⟩ := entry
      obtain ⟨rfl, known⟩ := first
      rw [complete, known.value distinct, ih]
      rfl

/-- Where every field of a record was found, completing them fills in nothing. -/
theorem complete_of_found {fields : List Field}
    (names : entries.map Prod.fst = fields.map Field.name)
    (distinct : (found.map Prod.fst).Nodup) (contained : ∀ entry ∈ entries, entry ∈ found) :
    complete found fields = .ok entries := by
  refine complete_of_known distinct ?_
  induction fields generalizing entries with
  | nil =>
      rw [List.map_nil, List.map_eq_nil_iff] at names
      subst names
      exact .nil
  | cons field fields ih =>
      cases entries with
      | nil => contradiction
      | cons entry entries =>
          obtain ⟨name, datum⟩ := entry
          obtain ⟨rfl, others⟩ := List.cons.inj names
          exact .cons ⟨rfl, .inl (contained _ List.mem_cons_self)⟩
            (ih others fun entry member => contained entry (List.mem_cons_of_mem _ member))

/-! ## Reading -/

theorem printFields_eq_map (entries : List (String × Datum)) :
    printFields entries =
      entries.map fun entry => entry.1.toList ++ ':' :: print entry.2 := by
  induction entries with
  | nil => rfl
  | cons entry entries ih => rw [printFields_cons, ih, List.map_cons]

theorem begins_of_isWord (word : isWord name = true) : Begins name.toList := by
  rw [isWord, Bool.and_eq_true] at word
  cases letters : name.toList with
  | nil =>
      rw [letters] at word
      exact absurd word.1 (by decide)
  | cons first others =>
      rw [letters] at word
      exact isOpening_of_belongs (show isWordStart first = true from word.1) (by decide)

theorem colon_printed {input : List Char} (begins : Begins input) :
    colon (':' :: input) = .ok input := by
  rw [colon, skipGap_cons (by rfl) (by decide)]
  simp only [bind, Except.bind, expect, ↓reduceIte, skipGap_of_begins begins]

section ReadFields

variable {levels : Nat} {value : Shape → List Char → Except Fault (Datum × List Char)}
  {skip : List Char → Except Fault (List Char)} {owner : String} {fields : List Field}

theorem closes_parenthesis : Closes ')' := ⟨rfl, by decide⟩

theorem readFields_closing (limit : Nat) (separated : Bool) (rest : List Char) :
    readFields levels value skip owner fields (limit + 1) separated found (')' :: rest) =
      .ok (found, ')' :: rest) := by
  rw [readFields, hasElement_of_closes closes_parenthesis]
  rfl

/-- A datum that is written, the datum that it is read as, and whether reading goes deep
enough for it. -/
structure Piece where
  written : Datum
  meant : Datum
  shallow : Bool

namespace Piece

/-- What is written under a name. -/
def printed (entry : String × Piece) : String × Datum := (entry.1, entry.2.written)

/-- What is read under a name. -/
def said (entry : String × Piece) : String × Datum := (entry.1, entry.2.meant)

/-- A datum that is read as it is written. -/
def asWritten (entry : String × Datum) : String × Piece := (entry.1, ⟨entry.2, entry.2, true⟩)

section

variable (entries : List (String × Datum))

theorem map_fst_asWritten : (entries.map asWritten).map Prod.fst = entries.map Prod.fst := by
  rw [List.map_map]
  rfl

theorem map_printed_asWritten : (entries.map asWritten).map printed = entries := by
  rw [List.map_map]
  exact List.map_id entries

theorem map_said_asWritten : (entries.map asWritten).map said = entries := by
  rw [List.map_map]
  exact List.map_id entries

theorem all_shallow_asWritten : (entries.map asWritten).all (·.2.shallow) = true := by
  rw [List.all_map]
  exact List.all_eq_true.2 fun _ _ => rfl

end

/-- What is written where a field of a record is asked for. -/
structure Given (value : Shape → List Char → Except Fault (Datum × List Char))
    (fields : List Field) (entry : String × Piece) : Prop where
  word : isWord entry.1 = true
  known : ∃ field, fields.find? (fun field => field.name == entry.1) = some field ∧
    Gives (value field.shape) (print entry.2.written) entry.2.shallow entry.2.meant

end Piece

variable {piece : Piece} {shown : List (String × Piece)}

/-- One field is found in front of the others. -/
theorem readFields_given (deep : 2 ≤ levels) (given : Piece.Given value fields (name, piece))
    (absent : name ∉ found.map Prod.fst) (limit : Nat) {rest : List Char} (ends : Ends rest) :
    readFields levels value skip owner fields (limit + 1) true found
        (name.toList ++ ':' :: (print piece.written ++ rest)) =
      if piece.shallow then (comma rest).bind fun (separated, rest) =>
        readFields levels value skip owner fields limit separated ((name, piece.meant) :: found)
          rest
      else .error .tooDeep := by
  obtain ⟨word, field, known, gives⟩ := given
  rw [readFields, hasElement_of_begins closes_parenthesis (begins_of_isWord word).append]
  simp only [bind, Except.bind, ↓reduceIte, descend, deep, identifier_of_isWord word (.inl rfl),
    known, lookUp_of_not_mem absent, Option.isSome_none, Bool.false_eq_true,
    colon_printed gives.begins.append, gives.reads ends, verdict]
  cases piece.shallow <;> rfl

theorem begins_of_given (given : ∀ entry ∈ shown, Piece.Given value fields entry) :
    ∀ text ∈ printFields (shown.map Piece.printed), Begins text := by
  rw [printFields_eq_map, List.map_map]
  intro text member
  obtain ⟨entry, inside, rfl⟩ := List.mem_map.1 member
  exact (begins_of_isWord (given entry inside).word).append

/-- What comes after a field is told apart from it as from what was found before. -/
theorem absent_cons (fresh : name ∉ shown.map Prod.fst)
    (absent : ∀ entry ∈ shown, entry.1 ∉ found.map Prod.fst) :
    ∀ entry ∈ shown, entry.1 ∉ ((name, datum) :: found).map Prod.fst := by
  intro entry member seen
  cases List.mem_cons.1 seen with
  | inl same => exact fresh (List.mem_map.2 ⟨entry, member, same⟩)
  | inr before => exact absent entry member before

theorem printFields_cons_cons (next : String × Piece) (others : List (String × Piece))
    (rest : List Char) :
    separatedByCommas (printFields (((name, piece) :: next :: others).map Piece.printed)) ++
        rest =
      name.toList ++ ':' :: (print piece.written ++
        ',' :: (separatedByCommas (printFields ((next :: others).map Piece.printed)) ++
          rest)) := by
  simp [separatedByCommas, Piece.printed]

/-- Fields with commas between them are found one by one, as long as reading goes deep
enough. -/
theorem readFields_verdict (deep : 2 ≤ levels)
    (given : ∀ entry ∈ shown, Piece.Given value fields entry)
    (distinct : (shown.map Prod.fst).Nodup)
    (absent : ∀ entry ∈ shown, entry.1 ∉ found.map Prod.fst)
    {limit : Nat} (enough : shown.length < limit) (rest : List Char) :
    readFields levels value skip owner fields limit true found
        (separatedByCommas (printFields (shown.map Piece.printed)) ++ ')' :: rest) =
      verdict (shown.all (·.2.shallow)) ((shown.map Piece.said).reverse ++ found)
        (')' :: rest) := by
  induction shown generalizing found limit with
  | nil =>
      obtain ⟨limit, rfl⟩ := Nat.exists_eq_add_one_of_ne_zero (Nat.ne_of_gt enough)
      exact readFields_closing limit true rest
  | cons entry shown ih =>
      obtain ⟨limit, rfl⟩ := Nat.exists_eq_add_one_of_ne_zero (Nat.ne_zero_of_lt enough)
      have fewer : shown.length < limit := Nat.lt_of_succ_lt_succ enough
      obtain ⟨name, piece⟩ := entry
      obtain ⟨one, givenLater⟩ := List.forall_mem_cons.1 given
      obtain ⟨isNew, absentLater⟩ := List.forall_mem_cons.1 absent
      obtain ⟨fresh, distinctLater⟩ := List.nodup_cons.1 distinct
      rw [List.all_cons]
      cases shown with
      | nil =>
          obtain ⟨limit, rfl⟩ := Nat.exists_eq_add_one_of_ne_zero (Nat.ne_of_gt fewer)
          have text : separatedByCommas (printFields ([(name, piece)].map Piece.printed)) ++
              ')' :: rest = name.toList ++ ':' :: (print piece.written ++ ')' :: rest) :=
            List.append_assoc _ _ _
          rw [text, readFields_given deep one isNew _ closes_parenthesis.ends,
            comma_of_ends closes_parenthesis.delimiter closes_parenthesis.notComma]
          simp only [Except.bind, readFields_closing]
          cases piece.shallow <;> rfl
      | cons next others =>
          have othersBegin : Begins (separatedByCommas
              (printFields ((next :: others).map Piece.printed)) ++ ')' :: rest) :=
            (begins_separatedByCommas
              (begins_of_given givenLater _ List.mem_cons_self)).append
          have stillAbsent : ∀ entry ∈ next :: others,
              entry.1 ∉ ((name, piece.meant) :: found).map Prod.fst :=
            absent_cons fresh absentLater
          rw [printFields_cons_cons, readFields_given deep one isNew _ (Ends.comma _),
            comma_comma othersBegin]
          simp only [Except.bind, ih givenLater distinctLater stillAbsent fewer, verdict]
          have order : (((name, piece) :: next :: others).map Piece.said).reverse ++ found =
              ((next :: others).map Piece.said).reverse ++ (name, piece.meant) :: found := by
            simp [Piece.said]
          rw [order]
          cases piece.shallow with
          | false => rfl
          | true => cases (next :: others).all (·.2.shallow) <;> rfl

/-- What can be read where a field of a record is asked for. -/
structure Legible (value : Shape → List Char → Except Fault (Datum × List Char))
    (fields : List Field) (entry : String × Datum) : Prop where
  word : isWord entry.1 = true
  begins : Begins (print entry.2)
  known : ∃ field, fields.find? (fun field => field.name == entry.1) = some field ∧
    ∀ {rest}, Ends rest → value field.shape (print entry.2 ++ rest) = .ok (entry.2, rest)

theorem Legible.given (legible : Legible value fields (name, datum)) :
    Piece.Given value fields (name, ⟨datum, datum, true⟩) := by
  obtain ⟨word, begins, field, known, read⟩ := legible
  exact ⟨word, field, known, begins, read⟩

/-- One field that is read as it was written is found in front of the others. -/
theorem readFields_field (deep : 2 ≤ levels) (legible : Legible value fields (name, datum))
    (absent : name ∉ found.map Prod.fst) (limit : Nat) {rest : List Char} (ends : Ends rest) :
    readFields levels value skip owner fields (limit + 1) true found
        (name.toList ++ ':' :: (print datum ++ rest)) =
      (comma rest).bind fun (separated, rest) =>
        readFields levels value skip owner fields limit separated ((name, datum) :: found)
          rest :=
  readFields_given deep legible.given absent limit ends

theorem expect_self (char : Char) (rest : List Char) : expect char (char :: rest) = .ok rest :=
  if_pos rfl

theorem descend_of_le {down : Nat} (deep : down ≤ levels) : descend levels down = .ok () :=
  if_pos deep

/-- The fields of a record are read from what is written for some of them, in whatever
order it stands there. -/
theorem readFieldList_given {implicit : Bool} (deep : 2 ≤ levels)
    (given : ∀ entry ∈ shown, Piece.Given value fields entry)
    (distinct : (shown.map Prod.fst).Nodup)
    (completed : shown.all (·.2.shallow) = true →
      complete (shown.map Piece.said).reverse fields = .ok entries) (rest : List Char) :
    readFieldList implicit levels value owner fields
        ('(' :: (separatedByCommas (printFields (shown.map Piece.printed)) ++ ')' :: rest)) =
      verdict (shown.all (·.2.shallow)) entries rest := by
  have fewer := length_le_separatedByCommas (begins_of_given given)
  rw [printFields_eq_map, List.length_map, List.length_map, ← printFields_eq_map] at fewer
  have enough : shown.length <
      (separatedByCommas (printFields (shown.map Piece.printed)) ++ ')' :: rest).length + 1 := by
    rw [List.length_append]
    omega
  rw [readFieldList, expect_self]
  simp only [bind, Except.bind, descend_of_le (Nat.le_of_succ_le deep)]
  rw [readFields_verdict deep given distinct (by simp) enough, verdict]
  cases all : shown.all (·.2.shallow) with
  | false => rfl
  | true =>
      simp only [↓reduceIte, List.append_nil, completed all, expect_self, pure, Except.pure]
      rfl

/-- The fields of a record are read from what is written for them. -/
theorem readFieldList_printed {implicit : Bool} (deep : 2 ≤ levels)
    (legible : ∀ entry ∈ entries, Legible value fields entry)
    (names : entries.map Prod.fst = fields.map Field.name)
    (distinct : (fields.map Field.name).Nodup) (rest : List Char) :
    readFieldList implicit levels value owner fields
        ('(' :: (separatedByCommas (printFields entries) ++ ')' :: rest)) =
      .ok (entries, rest) := by
  have given : ∀ entry ∈ entries.map Piece.asWritten, Piece.Given value fields entry := by
    intro entry member
    obtain ⟨origin, inside, rfl⟩ := List.mem_map.1 member
    exact (legible origin inside).given
  have distinctEntries : (entries.map Prod.fst).Nodup := names ▸ distinct
  have completed : complete ((entries.map Piece.asWritten).map Piece.said).reverse fields =
      .ok entries := by
    rw [Piece.map_said_asWritten]
    refine complete_of_found names ?_ fun entry member => List.mem_reverse.2 member
    rw [List.map_reverse]
    exact (List.reverse_perm _).nodup_iff.2 distinctEntries
  rw [← Piece.map_fst_asWritten] at distinctEntries
  have read : readFieldList implicit levels value owner fields _ = _ :=
    readFieldList_given deep given distinctEntries (fun _ => completed) rest
  rw [Piece.map_printed_asWritten, Piece.all_shallow_asWritten] at read
  exact read

end ReadFields

end BranchingStory.Notation
