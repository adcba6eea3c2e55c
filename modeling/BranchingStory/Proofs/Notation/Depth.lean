import BranchingStory.Proofs.Notation.RoundTrip

/-!
# Data that are nested too deep

Where there are too few levels left for a case or for fields, what is written for them is
refused, and what is refused inside a field or a case is refused with it.
-/

namespace BranchingStory

open Decimal Notation

namespace Notation

variable {implicit : Bool} {levels : Nat} {around : Shape} {name owner : String}
  {cases : List Case} {fields : List Field} {input : List Char} {value : ShapeReader}
  {skip : List Char → Except Fault (List Char)} {found : List (String × Datum)}

/-- A case takes two levels of its own. -/
theorem readDatum_case_tooDeep (shallow : levels < 2) :
    readDatum implicit levels around (.alternative name cases) input = .error .tooDeep := by
  obtain ⟨one, two, three, step⟩ := exists_readShape implicit levels
  rw [step]
  show readCase implicit levels _ _ name cases input = _
  rw [readCase, descend, if_neg (Nat.not_le_of_lt shallow)]
  rfl

/-- So do fields. -/
theorem readFields_tooDeep (shallow : levels < 2) (begins : Begins input) (limit : Nat) :
    readFields levels value skip owner fields (limit + 1) true found input =
      .error .tooDeep := by
  rw [readFields, hasElement_of_begins closes_parenthesis begins]
  simp only [bind, Except.bind, ↓reduceIte, descend, if_neg (Nat.not_le_of_lt shallow)]

/-- What a field refuses, its record refuses. -/
theorem readFields_refused (deep : 2 ≤ levels) {field : Field} {fault : Fault}
    (word : isWord name = true) (begins : Begins input)
    (known : fields.find? (fun field => field.name == name) = some field)
    (absent : name ∉ found.map Prod.fst) (refused : value field.shape input = .error fault)
    (limit : Nat) :
    readFields levels value skip owner fields (limit + 1) true found
      (name.toList ++ ':' :: input) = .error fault := by
  rw [readFields, hasElement_of_begins closes_parenthesis (begins_of_isWord word).append]
  simp only [bind, Except.bind, ↓reduceIte, descend_of_le deep,
    identifier_of_isWord word (.inl rfl), known, lookUp_of_not_mem absent, Option.isSome_none,
    Bool.false_eq_true, colon_printed begins, refused]

/-- What the second of two fields refuses, their record refuses. -/
theorem readFields_second_refused (deep : 2 ≤ levels) {first : String} {datum : Datum}
    {field : Field} {fault : Fault} (legible : Legible value fields (first, datum))
    (word : isWord name = true) (begins : Begins input)
    (known : fields.find? (fun field => field.name == name) = some field)
    (other : name ≠ first) (refused : value field.shape input = .error fault)
    {limit : Nat} (enough : 2 ≤ limit) :
    readFields levels value skip owner fields limit true []
      (first.toList ++ ':' :: (print datum ++ ',' :: (name.toList ++ ':' :: input))) =
      .error fault := by
  obtain ⟨limit, rfl⟩ : ∃ less, limit = less + 2 := ⟨limit - 2, by omega⟩
  have absent : name ∉ [(first, datum)].map Prod.fst := by simpa using other
  rw [readFields_field deep legible List.not_mem_nil _ (Ends.comma _),
    comma_comma (begins_of_isWord word).append]
  exact readFields_refused deep word begins known absent refused limit

theorem readFieldList_refused (deep : 1 ≤ levels) {fault : Fault}
    (refused : readFields levels value (skipDatum implicit (levels - 2)) owner fields
      (input.length + 1) true [] input = .error fault) :
    readFieldList implicit levels value owner fields ('(' :: input) = .error fault := by
  rw [readFieldList, expect_self]
  simp only [bind, Except.bind, descend_of_le deep, refused]

variable {held field : ShapeReader} {case : String}

theorem readCase_having_refused (deep : 2 ≤ levels) (word : isWord case = true) {fault : Fault}
    (known : cases.find? (fun known => known.name == case) = some (.having case fields))
    (refused : readFieldList implicit (levels - 1) field case fields ('(' :: input) =
      .error fault) :
    readCase implicit levels held field name cases (case.toList ++ '(' :: input) =
      .error fault := by
  rw [readCase, descend_of_le deep]
  simp only [bind, Except.bind, skipGap_of_begins (begins_of_isWord word).append,
    identifier_of_isWord word (.inr rfl), known,
    skipGap_cons (show isBlank '(' = false from rfl) (by decide), refused]

theorem readCase_holding_refused (deep : 2 ≤ levels) (word : isWord case = true) {fault : Fault}
    {shape : Shape}
    (known : cases.find? (fun known => known.name == case) = some (.holding case shape))
    (begins : Begins input) (refused : held shape input = .error fault) :
    readCase implicit levels held field name cases (case.toList ++ '(' :: input) =
      .error fault := by
  rw [readCase, descend_of_le deep]
  simp only [bind, Except.bind, skipGap_of_begins (begins_of_isWord word).append,
    identifier_of_isWord word (.inr rfl), known,
    skipGap_cons (show isBlank '(' = false from rfl) (by decide), expect_self,
    skipGap_of_begins begins, refused]

/-- The fields of a case lie three levels down. -/
theorem readDatum_having_tooDeep (shallow : levels < 3) (word : isWord case = true)
    (known : cases.find? (fun known => known.name == case) = some (.having case fields))
    {entries : List (String × Datum)} (begins : Begins (separatedByCommas (printFields entries)))
    {rest : List Char} :
    readDatum implicit levels around (.alternative name cases)
      (print (.having case entries) ++ rest) = .error .tooDeep := by
  rcases Nat.lt_or_ge levels 2 with less | enough
  · exact readDatum_case_tooDeep less
  · obtain rfl : levels = 2 := Nat.le_antisymm (Nat.le_of_lt_succ shallow) enough
    have text : print (.having case entries) ++ rest =
        case.toList ++ '(' :: (separatedByCommas (printFields entries) ++ ')' :: rest) := by
      simp
    obtain ⟨three, step⟩ := exists_readDatum_alternative implicit 0 around name cases
    rw [text, step]
    exact readCase_having_refused (Nat.le_refl _) word known
      (readFieldList_refused (Nat.le_refl _) (readFields_tooDeep (by decide) begins.append _))

end Notation

end BranchingStory
