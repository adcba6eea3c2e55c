import BranchingStory.Proofs.Notation.Fields
import BranchingStory.Proofs.Notation.Fitting
import BranchingStory.Proofs.Notation.Primitive

/-!
# Data read back

A datum that fits a shape is read back from what is written for it, where the shape is
asked for, and reading goes no deeper than the datum is nested.  Every form of datum has a
lemma of its own, which relies on the data inside being read back; the induction over the
datum puts them together.
-/

namespace BranchingStory.Notation

open Decimal Text

variable {plain : Binary64 → Prop} {levels : Nat} {around shape : Shape} {datum : Datum}
  {implicit : Bool}

theorem printItems_eq_map (items : List Datum) : printItems items = items.map print := by
  induction items with
  | nil => rfl
  | cons item items ih => rw [printItems_cons, ih, List.map_cons]

theorem printEntries_eq_map (entries : List (String × Datum)) :
    printEntries entries =
      entries.map fun entry => Quoted.encode entry.1 ++ ':' :: print entry.2 := by
  induction entries with
  | nil => rfl
  | cons entry entries ih => rw [printEntries_cons, ih, List.map_cons]

/-! ## How a datum begins -/

theorem begins_integer (number : Int) : Begins (Numeral.integer number).toList := by
  cases number with
  | ofNat value =>
      show Begins (String.ofList (Numeral.digits value)).toList
      rw [String.toList_ofList]
      obtain ⟨first, others, run⟩ := List.exists_cons_of_ne_nil (Numeral.digits_ne_nil value)
      have member : first ∈ Numeral.digits value := by
        rw [run]
        exact List.mem_cons_self
      rw [run]
      exact isOpening_of_belongs (Numeral.isDigit_of_mem_digits member) (by decide)
  | negSucc less =>
      show Begins (String.ofList ('-' :: Numeral.digits (less + 1))).toList
      rw [String.toList_ofList]
      rfl

theorem begins_pointedText (number : Binary64) : Begins number.pointedText.toList := by
  cases number with
  | undefined => rfl
  | infinite negative => cases negative <;> rfl
  | finite negative units fits =>
      obtain ⟨whole, fraction, pointed, -⟩ := (Binary64.shownForm units).positional_writtenAs
      have inside := isFloatChar_of_pointed pointed negative
      have nonempty : Binary64.signText negative ++ whole ++ '.' :: fraction ≠ [] := by simp
      rw [Binary64.pointedText_finite]
      rw [pointed.eq, ← List.append_assoc] at inside ⊢
      obtain ⟨first, others, run⟩ := List.exists_cons_of_ne_nil nonempty
      rw [run] at inside ⊢
      exact isOpening_of_belongs (inside first List.mem_cons_self) (by decide)

theorem Fits.begins (fits : Fits plain levels around shape datum) : Begins (print datum) := by
  induction fits with
  | text content => rfl
  | truth value => cases value <;> rfl
  | float letThrough => exact begins_pointedText _
  | integer standard inRange => exact begins_integer _
  | absent => rfl
  | present definite inner _ => rfl
  | list _ _ => rfl
  | table _ _ => rfl
  | pair _ _ _ _ => rfl
  | record _ _ _ => rfl
  | holding word _ _ _ => exact (begins_of_isWord word).append
  | having word _ _ _ _ => exact (begins_of_isWord word).append
  | enclosing _ inner => exact inner

/-! ## One form of datum -/

variable {rest : List Char}

theorem readOptional_present {value : List Char → Except Fault (Datum × List Char)}
    (begins : Begins (print datum))
    (read : ∀ {rest}, Ends rest → value (print datum ++ rest) = .ok (datum, rest)) :
    readOptional implicit value (print (.present datum) ++ rest) = .ok (.present datum, rest) := by
  have text : print (.present datum) ++ rest =
      "Some".toList ++ '(' :: (print datum ++ ')' :: rest) := by
    simp
  have notAbsent : dropText? "None" ("Some".toList ++ '(' :: (print datum ++ ')' :: rest)) =
      none :=
    dropText?_of_head (rfl : "None".toList.head? = some 'N') (by decide)
  rw [text, readOptional, notAbsent, dropText?_append]
  simp only [bind, Except.bind, skipGap_cons (show isBlank '(' = false from rfl) (by decide),
    skipGap_of_begins begins.append, read closes_parenthesis.ends,
    comma_of_ends closes_parenthesis.delimiter closes_parenthesis.notComma, expect_self,
    pure, Except.pure]

/-- Items are read from what is written for them, as long as reading goes deep enough. -/
theorem readList_given {α : Type} {value : List Char → Except Fault (Datum × List Char)}
    (meant : α → Datum) (shallow : α → Bool) (deep : 1 ≤ levels) {items : List α}
    {texts : List (List Char)}
    (each : List.Forall₂ (fun item text => Gives value text (shallow item) (meant item))
      items texts) :
    readList levels value ('[' :: (separatedByCommas texts ++ ']' :: rest)) =
      verdict (items.all shallow) (.list (items.map meant)) rest := by
  have closes : Closes ']' := ⟨rfl, by decide⟩
  rw [readList, expect_self]
  simp only [bind, Except.bind, descend_of_le deep]
  rw [elements_given closes each, verdict]
  cases items.all shallow with
  | false => rfl
  | true =>
      simp only [↓reduceIte, expect_self, pure, Except.pure]
      rfl

theorem print_list_append (items : List Datum) :
    print (.list items) ++ rest = '[' :: (separatedByCommas (items.map print) ++ ']' :: rest) := by
  simp [printItems_eq_map]

theorem readList_printed {value : List Char → Except Fault (Datum × List Char)}
    (deep : 1 ≤ levels) {items : List Datum} (begins : ∀ item ∈ items, Begins (print item))
    (read : ∀ item ∈ items, ∀ {rest}, Ends rest → value (print item ++ rest) = .ok (item, rest)) :
    readList levels value (print (.list items) ++ rest) = .ok (.list items, rest) := by
  have each : List.Forall₂ (fun item text => Gives value text true item) items
      (items.map print) :=
    List.forall₂_map_right_iff.2 (List.forall₂_same.2 fun item member =>
      ⟨begins item member, read item member⟩)
  have fine : (items.all fun _ => true) = true := List.all_eq_true.2 fun _ _ => rfl
  rw [print_list_append, readList_given (fun item => item) (fun _ => true) deep each, fine,
    List.map_id']
  rfl

/-- An entry is read if what stands under its name is. -/
theorem gives_entry {value : List Char → Except Fault (Datum × List Char)} {name : String}
    {text : List Char} {shallow : Bool} (deep : 2 ≤ levels)
    (gives : Gives value text shallow datum) :
    Gives (readEntry levels value) (Quoted.encode name ++ ':' :: text) shallow (name, datum) := by
  refine ⟨rfl, fun {rest} ends => ?_⟩
  rw [List.append_assoc, List.cons_append, readEntry, descend_of_le deep]
  simp only [bind, Except.bind, text_encode, colon_printed gives.begins.append, gives.reads ends,
    verdict]
  cases shallow <;> rfl

/-- Entries are read from what is written for them, as long as reading goes deep enough. -/
theorem readTable_given {α : Type} {value : List Char → Except Fault (Datum × List Char)}
    (meant : α → Datum) (shallow : α → Bool) (deep : 2 ≤ levels)
    {entries : List (String × α)} {written : List (String × Datum)}
    (each : List.Forall₂ (fun entry field => field.1 = entry.1 ∧
      Gives value (print field.2) (shallow entry.2) (meant entry.2)) entries written) :
    readTable levels value (print (.table written) ++ rest) =
      verdict (entries.all fun entry => shallow entry.2)
        (.table (entries.map fun entry => (entry.1, meant entry.2))) rest := by
  have closes : Closes '}' := ⟨rfl, by decide⟩
  have text : print (.table written) ++ rest =
      '{' :: (separatedByCommas (written.map fun field =>
        Quoted.encode field.1 ++ ':' :: print field.2) ++ '}' :: rest) := by
    simp [printEntries_eq_map]
  have given : List.Forall₂ (fun entry text =>
      Gives (readEntry levels value) text (shallow entry.2) (entry.1, meant entry.2)) entries
      (written.map fun field => Quoted.encode field.1 ++ ':' :: print field.2) := by
    refine List.forall₂_map_right_iff.2 (each.imp fun entry field gives => ?_)
    rw [gives.1]
    exact gives_entry deep gives.2
  rw [text, readTable, expect_self]
  simp only [bind, Except.bind, descend_of_le (Nat.le_of_succ_le deep)]
  rw [elements_given closes given, verdict]
  cases entries.all fun entry => shallow entry.2 with
  | false => rfl
  | true =>
      simp only [↓reduceIte, expect_self, pure, Except.pure]
      rfl

theorem readTable_printed {value : List Char → Except Fault (Datum × List Char)}
    (deep : 2 ≤ levels) {entries : List (String × Datum)}
    (begins : ∀ entry ∈ entries, Begins (print entry.2))
    (read : ∀ entry ∈ entries, ∀ {rest}, Ends rest →
      value (print entry.2 ++ rest) = .ok (entry.2, rest)) :
    readTable levels value (print (.table entries) ++ rest) = .ok (.table entries, rest) := by
  have each : List.Forall₂ (fun entry field => field.1 = entry.1 ∧
      Gives value (print field.2) true entry.2) entries entries :=
    List.forall₂_same.2 fun entry member => ⟨rfl, begins entry member, read entry member⟩
  have fine : (entries.all fun _ => true) = true := List.all_eq_true.2 fun _ _ => rfl
  have same : entries.map (fun entry => (entry.1, entry.2)) = entries := List.map_id entries
  rw [readTable_given (fun datum => datum) (fun _ => true) deep each, fine, same]
  rfl

theorem readPair_printed {first second : List Char → Except Fault (Datum × List Char)}
    (deep : 1 ≤ levels) {left right : Datum} (beginsLeft : Begins (print left))
    (beginsRight : Begins (print right))
    (readLeft : ∀ {rest}, Ends rest → first (print left ++ rest) = .ok (left, rest))
    (readRight : ∀ {rest}, Ends rest → second (print right ++ rest) = .ok (right, rest)) :
    readPair levels first second (print (.pair left right) ++ rest) =
      .ok (.pair left right, rest) := by
  have text : print (.pair left right) ++ rest =
      '(' :: (print left ++ ',' :: (print right ++ ')' :: rest)) := by
    simp
  rw [text, readPair, expect_self]
  simp only [bind, Except.bind, descend_of_le deep,
    hasElement_of_begins closes_parenthesis beginsLeft.append,
    hasElement_of_begins closes_parenthesis beginsRight.append, readLeft (Ends.comma _),
    readRight closes_parenthesis.ends, comma_comma beginsRight.append,
    comma_of_ends closes_parenthesis.delimiter closes_parenthesis.notComma, expect_self, pure,
    Except.pure]

theorem recordName_unnamed (name : String) (input : List Char) :
    recordName name ('(' :: input) = .ok ('(' :: input) :=
  skipGap_cons rfl (by decide)

section Cases

variable {held field : ShapeReader} {name case : String} {cases : List Case}

theorem readCase_holding (deep : 2 ≤ levels) (word : isWord case = true)
    (known : cases.find? (fun known => known.name == case) = some (.holding case shape))
    (begins : Begins (print datum))
    (read : ∀ {rest}, Ends rest → held shape (print datum ++ rest) = .ok (datum, rest)) :
    readCase implicit levels held field name cases (print (.holding case datum) ++ rest) =
      .ok (.holding case datum, rest) := by
  have text : print (.holding case datum) ++ rest =
      case.toList ++ '(' :: (print datum ++ ')' :: rest) := by
    simp
  rw [text, readCase, descend_of_le deep]
  simp only [bind, Except.bind, skipGap_of_begins (begins_of_isWord word).append,
    identifier_of_isWord word (.inr rfl), known,
    skipGap_cons (show isBlank '(' = false from rfl) (by decide), expect_self,
    skipGap_of_begins begins.append, read closes_parenthesis.ends,
    comma_of_ends closes_parenthesis.delimiter closes_parenthesis.notComma, pure, Except.pure]

theorem readCase_having (deep : 3 ≤ levels) (word : isWord case = true) {fields : List Field}
    (known : cases.find? (fun known => known.name == case) = some (.having case fields))
    {entries : List (String × Datum)}
    (legible : ∀ entry ∈ entries, Legible field fields entry)
    (names : entries.map Prod.fst = fields.map Field.name)
    (distinct : (fields.map Field.name).Nodup) :
    readCase implicit levels held field name cases (print (.having case entries) ++ rest) =
      .ok (.having case entries, rest) := by
  have text : print (.having case entries) ++ rest =
      case.toList ++ '(' :: (separatedByCommas (printFields entries) ++ ')' :: rest) := by
    simp
  have deepFields : 2 ≤ levels - 1 := by omega
  rw [text, readCase, descend_of_le (by omega)]
  simp only [bind, Except.bind, skipGap_of_begins (begins_of_isWord word).append,
    identifier_of_isWord word (.inr rfl), known,
    skipGap_cons (show isBlank '(' = false from rfl) (by decide),
    readFieldList_printed deepFields legible names distinct, pure, Except.pure]

end Cases

/-! ## Levels -/

section Levels

variable {input : List Char} {name : String}

theorem exists_readShape (implicit : Bool) (levels : Nat) :
    ∃ one two three, readDatum implicit levels = readShape implicit levels one two three := by
  match levels with
  | 0 => exact ⟨_, _, _, rfl⟩
  | 1 => exact ⟨_, _, _, rfl⟩
  | 2 => exact ⟨_, _, _, rfl⟩
  | levels + 3 => exact ⟨_, _, _, rfl⟩

theorem exists_readShape_two (implicit : Bool) (levels : Nat) :
    ∃ three, readDatum implicit (levels + 2) =
      readShape implicit (levels + 2) (readDatum implicit (levels + 1))
        (readDatum implicit levels) three := by
  match levels with
  | 0 => exact ⟨_, rfl⟩
  | levels + 1 => exact ⟨_, rfl⟩

theorem readDatum_text : readDatum implicit levels around .text input =
    (text input).map fun (text, rest) => (.text text, rest) := by
  obtain ⟨one, two, three, step⟩ := exists_readShape implicit levels
  rw [step]
  rfl

theorem readDatum_truth : readDatum implicit levels around .truth input =
    (truth input).map fun (truth, rest) => (.truth truth, rest) := by
  obtain ⟨one, two, three, step⟩ := exists_readShape implicit levels
  rw [step]
  rfl

theorem readDatum_float : readDatum implicit levels around .float input =
    (float input).map fun (number, rest) => (.float number, rest) := by
  obtain ⟨one, two, three, step⟩ := exists_readShape implicit levels
  rw [step]
  rfl

theorem readDatum_integer {range : IntegerRange} :
    readDatum implicit levels around (.integer range) input =
      (integer range input).map fun (number, rest) => (.integer number, rest) := by
  obtain ⟨one, two, three, step⟩ := exists_readShape implicit levels
  rw [step]
  rfl

theorem readDatum_absent {rest : List Char} :
    readDatum implicit levels around (.optional shape) ("None".toList ++ rest) =
      .ok (.absent, rest) := by
  obtain ⟨one, two, three, step⟩ := exists_readShape implicit levels
  rw [step]
  show readOptional implicit (one around shape) ("None".toList ++ rest) = _
  rw [readOptional, dropText?_append]

theorem readDatum_optional : readDatum implicit (levels + 1) around (.optional shape) input =
    readOptional implicit (readDatum implicit levels around shape) input := by
  match levels with
  | 0 => rfl
  | 1 => rfl
  | levels + 2 => rfl

theorem readDatum_list : readDatum implicit (levels + 2) around (.list shape) input =
    readList (levels + 2) (readDatum implicit levels around shape) input := by
  obtain ⟨three, step⟩ := exists_readShape_two implicit levels
  rw [step]
  rfl

theorem readDatum_table : readDatum implicit (levels + 2) around (.table shape) input =
    readTable (levels + 2) (readDatum implicit levels around shape) input := by
  obtain ⟨three, step⟩ := exists_readShape_two implicit levels
  rw [step]
  rfl

theorem readDatum_pair {left right : Shape} :
    readDatum implicit (levels + 2) around (.pair left right) input =
      readPair (levels + 2) (readDatum implicit levels around left)
        (readDatum implicit levels around right) input := by
  obtain ⟨three, step⟩ := exists_readShape_two implicit levels
  rw [step]
  rfl

theorem readDatum_record {fields : List Field} :
    readDatum implicit (levels + 2) around (.record name fields) ('(' :: input) =
      (readFieldList implicit (levels + 2) (readDatum implicit levels around) name fields
        ('(' :: input)).map fun (fields, rest) => (.record fields, rest) := by
  obtain ⟨three, step⟩ := exists_readShape_two implicit levels
  have unnamed := recordName_unnamed name input
  rw [step]
  simp only [readShape, Shape.inside, unnamed, bind, Except.bind]
  cases readFieldList implicit (levels + 2) (readDatum implicit levels around) name fields
    ('(' :: input) <;> rfl

theorem exists_readDatum_alternative (implicit : Bool) (levels : Nat) (around : Shape)
    (name : String) (cases : List Case) :
    ∃ three, readDatum implicit (levels + 2) around (.alternative name cases) =
      readCase implicit (levels + 2) (readDatum implicit levels (.alternative name cases))
        three name cases := by
  obtain ⟨three, step⟩ := exists_readShape_two implicit levels
  refine ⟨three (.alternative name cases), ?_⟩
  rw [step]
  rfl

theorem readDatum_alternative {cases : List Case} :
    readDatum implicit (levels + 3) around (.alternative name cases) input =
      readCase implicit (levels + 3) (readDatum implicit (levels + 1) (.alternative name cases))
        (readDatum implicit levels (.alternative name cases)) name cases input :=
  rfl

theorem readDatum_enclosing {cases : List Case} :
    readDatum implicit levels (.alternative name cases) .enclosing input =
      readDatum implicit levels (.alternative name cases) (.alternative name cases) input := by
  obtain ⟨one, two, three, step⟩ := exists_readShape implicit levels
  rw [step]
  rfl

end Levels

/-! ## Any datum -/

theorem Named.legible {fields : List Field} {entries : List (String × Datum)}
    {value : ShapeReader} (named : Named fields entries)
    (begins : ∀ pair ∈ fields.zip entries, Begins (print pair.2.2))
    (read : ∀ pair ∈ fields.zip entries, ∀ {rest}, Ends rest →
      value pair.1.shape (print pair.2.2 ++ rest) = .ok (pair.2.2, rest)) :
    ∀ entry ∈ entries, Legible value fields entry := by
  intro entry member
  obtain ⟨field, beside, name, known⟩ := named.exists_field member
  refine ⟨?_, begins _ beside, field, known, read _ beside⟩
  rw [← name]
  exact named.words field (List.of_mem_zip beside).1

namespace IntegerRange

variable {range : IntegerRange}

theorem contains_zero (standard : range ∈ [IntegerRange.int32, .int64, .word64]) :
    range.contains 0 = true := by
  simp only [List.mem_cons, List.not_mem_nil, or_false] at standard
  rcases standard with rfl | rfl | rfl <;> decide

theorem signed_of_contains (standard : range ∈ [IntegerRange.int32, .int64, .word64])
    {number : Int} (inRange : range.contains number = true) :
    0 ≤ number ∨ range.signed = true := by
  simp only [List.mem_cons, List.not_mem_nil, or_false] at standard
  rcases standard with rfl | rfl | rfl
  · exact .inr rfl
  · exact .inr rfl
  · simp only [contains, Bool.and_eq_true, decide_eq_true_eq] at inRange
    exact .inl inRange.1

end IntegerRange

/-- A datum that fits a shape is read from what is written for it. -/
theorem readDatum_print (fits : Fits plain levels around shape datum) {rest : List Char}
    (ends : Ends rest) :
    readDatum implicit levels around shape (print datum ++ rest) = .ok (datum, rest) := by
  induction fits generalizing rest with
  | text content =>
      rw [readDatum_text, print_text, text_encode]
      rfl
  | truth value =>
      rw [readDatum_truth, print_truth, truth_printed]
      rfl
  | float letThrough =>
      rw [readDatum_float, print_float, float_pointedText _ ends]
      rfl
  | integer standard inRange =>
      rw [readDatum_integer, print_integer,
        integer_printed (IntegerRange.contains_zero standard)
          (IntegerRange.signed_of_contains standard inRange) inRange ends]
      rfl
  | absent => exact readDatum_absent
  | present definite fits inner =>
      rw [readDatum_optional]
      exact readOptional_present fits.begins inner
  | list fits each =>
      rw [readDatum_list]
      exact readList_printed (Nat.le_add_left _ _) (fun item member => (fits item member).begins)
        each
  | table fits each =>
      rw [readDatum_table]
      exact readTable_printed (Nat.le_add_left _ _)
        (fun entry member => (fits entry member).begins) each
  | pair left right first second =>
      rw [readDatum_pair]
      exact readPair_printed (Nat.le_add_left _ _) left.begins right.begins first second
  | record named fits each =>
      have legible := named.legible (fun pair member => (fits pair member).begins) each
      rw [print_record, List.cons_append, List.append_assoc, List.singleton_append,
        readDatum_record,
        readFieldList_printed (Nat.le_add_left _ _) legible named.names named.distinct]
      rfl
  | @holding levels around _ name _ cases _ word known fits inner =>
      obtain ⟨three, step⟩ := exists_readDatum_alternative implicit levels around name cases
      rw [step]
      exact readCase_holding (Nat.le_add_left _ _) word known fits.begins inner
  | having word known named fits each =>
      have legible := named.legible (fun pair member => (fits pair member).begins) each
      rw [readDatum_alternative]
      exact readCase_having (Nat.le_add_left _ _) word known legible named.names named.distinct
  | enclosing _ inner =>
      rw [readDatum_enclosing]
      exact inner ends

/-- Where a datum begins, no attributes stand. -/
theorem attributes_of_begins {input : List Char} (begins : Begins input) (limit : Nat) :
    attributes (limit + 1) input = .ok (false, input) := by
  cases input with
  | nil => rfl
  | cons first others =>
      have notMark : first ≠ '#' := by
        rintro rfl
        contradiction
      simp [attributes, notMark]

/-- A whole text is read like what it begins with. -/
theorem read_of_begins {input : List Char} (begins : Begins input) :
    read shape (String.ofList input) = (do
      let (datum, input) ← readDatum false greatestDepth .enclosing shape input
      match ← skipGap input with
      | [] => return datum
      | _ => throw .malformed) := by
  rw [read, String.toList_ofList, skipGap_of_begins begins]
  show (attributes (input.length + 1) input).bind _ = _
  rw [attributes_of_begins begins]
  rfl

/-- A whole text that says a datum of the asked-for shape is read as the datum. -/
theorem read_print (fits : Fits plain greatestDepth .enclosing shape datum) :
    read shape (String.ofList (print datum)) = .ok datum := by
  have parsed : readDatum false greatestDepth .enclosing shape (print datum ++ []) =
      .ok (datum, []) :=
    readDatum_print fits Ends.nil
  rw [List.append_nil] at parsed
  rw [read_of_begins fits.begins, parsed]
  rfl

end BranchingStory.Notation
