import BranchingStory.Proofs.Json.Number
import BranchingStory.Proofs.Text.Quoted

/-!
# JSON text read back

Every value is read from the text that is written for it, if its numbers are literals and
every string in it is one of characters.  A string is read character by character, and the
limit of reading is never reached, because two calls are made for a character at most.
-/

namespace BranchingStory.Json

open Text

variable {char : Char} {rest : List Char} {limit : Nat}

/-! ## Strings -/

section Strings

/-- A character that was read goes in front of those behind it. -/
def readOne (char : Char) (others : Option (Option (List Char) × List Char)) :
    Option (Option (List Char) × List Char) :=
  others.map fun (chars, rest) => (consChar? (some char) chars, rest)

theorem readChars_letter {letter : Char} (notUnit : letter ≠ 'u')
    (known : ofLetter? letter = some char) :
    readChars (limit + 1) ('\\' :: letter :: rest) = readOne char (readChars limit rest) := by
  rw [readChars, known]
  · cases readChars limit rest <;> rfl
  · exact notUnit

theorem readChars_plain (notQuote : char ≠ '"') (notBackslash : char ≠ '\\')
    (printed : ¬char.toNat < 0x20) :
    readChars (limit + 1) (char :: rest) = readOne char (readChars limit rest) := by
  rw [readChars, if_neg (not_or.2 ⟨notBackslash, printed⟩)]
  · cases readChars limit rest <;> rfl
  · exact notQuote
  · exact fun _ backslash => absurd backslash notBackslash
  · exact fun _ _ backslash => absurd backslash notBackslash

/-- The four digits of a character below the printed ones. -/
def controlDigits (code : Nat) : List Char :=
  List.replicate (4 - (Nat.toDigits 16 code).length) '0' ++ Nat.toDigits 16 code

theorem unit?_controlDigits {code : Nat} (control : code < 0x20) :
    unit? (controlDigits code ++ rest) = some (code, rest) := by
  have digits : ∀ code < 0x20, controlDigits code =
      ['0', '0', (code / 16).digitChar, (code % 16).digitChar] := by decide
  have high := Quoted.hexValue?_digitChar (show code / 16 < 16 by omega)
  have low := Quoted.hexValue?_digitChar (show code % 16 < 16 by omega)
  have zero : Quoted.hexValue? '0' = some 0 := by rfl
  rw [digits code control]
  simp only [List.cons_append, List.nil_append, unit?, high, low, zero, Option.bind_eq_bind,
    Option.bind_some, Nat.zero_mul, Nat.zero_add, Nat.div_add_mod', pure]

theorem readChars_control (control : char.toNat < 0x20) :
    readChars (limit + 1) ('\\' :: 'u' :: (controlDigits char.toNat ++ rest)) =
      readOne char (readChars limit rest) := by
  have notHalf : ¬(0xd800 ≤ char.toNat ∧ char.toNat < 0xdc00) := by omega
  have unit : escapedUnit? (controlDigits char.toNat ++ rest) = some (some char, rest) := by
    rw [escapedUnit?, unit?_controlDigits control]
    simp only [Option.bind_eq_bind, Option.bind_some, if_neg notHalf,
      Quoted.ofCodePoint?_toNat]
    rfl
  rw [readChars, unit]
  simp only [Option.bind_eq_bind, Option.bind_some]
  cases readChars limit rest <;> rfl

theorem readChars_encodeChar (char : Char) :
    readChars (limit + 1) (encodeChar char ++ rest) = readOne char (readChars limit rest) := by
  unfold encodeChar
  split
  · exact readChars_letter (by decide) rfl
  · exact readChars_letter (by decide) rfl
  · exact readChars_letter (by decide) rfl
  · exact readChars_letter (by decide) rfl
  · exact readChars_letter (by decide) rfl
  · exact readChars_letter (by decide) rfl
  · exact readChars_letter (by decide) rfl
  · next notQuote notBackslash _ _ _ _ _ =>
      split
      · next control => exact readChars_control control
      · next printed => exact readChars_plain notQuote notBackslash printed

/-- Text is read up to the closing quote. -/
theorem readChars_encoded (chars : List Char) (enough : chars.length < limit) :
    readChars limit (chars.flatMap encodeChar ++ '"' :: rest) = some (some chars, rest) := by
  induction chars generalizing limit with
  | nil =>
      obtain ⟨limit, rfl⟩ := Nat.exists_eq_add_one_of_ne_zero (Nat.ne_zero_of_lt enough)
      rfl
  | cons char chars ih =>
      obtain ⟨limit, rfl⟩ := Nat.exists_eq_add_one_of_ne_zero (Nat.ne_zero_of_lt enough)
      rw [List.flatMap_cons, List.append_assoc, readChars_encodeChar,
        ih (Nat.lt_of_succ_lt_succ enough)]
      rfl

theorem encodeChar_ne_nil (char : Char) : encodeChar char ≠ [] := by
  unfold encodeChar
  split <;> try simp
  split <;> simp

theorem length_le_encoded (chars : List Char) :
    chars.length ≤ (chars.flatMap encodeChar).length := by
  induction chars with
  | nil => exact Nat.le_refl 0
  | cons char chars ih =>
      have some := List.length_pos_iff.2 (encodeChar_ne_nil char)
      rw [List.flatMap_cons, List.length_append, List.length_cons]
      omega

theorem readString_encoded (text : String) :
    readString (text.toList.flatMap encodeChar ++ '"' :: rest) = some (some text, rest) := by
  have shorter := length_le_encoded text.toList
  have enough : text.toList.length <
      (text.toList.flatMap encodeChar ++ '"' :: rest).length + 1 := by
    rw [List.length_append]
    omega
  rw [readString, readChars_encoded text.toList enough]
  simp

end Strings

/-! ## Values -/

theorem skipBlanks_cons (mark : isBlank char = false) :
    skipBlanks (char :: rest) = char :: rest := by
  rw [skipBlanks, List.dropWhile_cons_of_neg (by simp [mark])]

/-- A value with a text that says it: its numbers are literals, and no half of a surrogate
pair stands in it. -/
inductive Printable : Json → Prop where
  | null : Printable .null
  | bool (truth : Bool) : Printable (.bool truth)
  | number {literal : List Char} (isLiteral : IsLiteral literal) : Printable (.number literal)
  | string (text : String) : Printable (.string text)
  | array {items : List Json} (each : ∀ item ∈ items, Printable item) :
      Printable (.array items)
  | object {members : List (String × Json)} (each : ∀ member ∈ members, Printable member.2) :
      Printable (.object members)

/-- A value begins with something that is no blank and does not close what it may be in. -/
def Opens (input : List Char) : Prop :=
  input.head?.any (fun char => !isBlank char && char != ']' && char != '\x7d') = true

theorem Opens.append {input : List Char} (opens : Opens input) : Opens (input ++ rest) := by
  cases input with
  | nil => contradiction
  | cons first others => exact opens

theorem Opens.skipBlanks {input : List Char} (opens : Opens input) : skipBlanks input = input := by
  cases input with
  | nil => contradiction
  | cons first others =>
      simp only [Opens, List.head?_cons, Option.any_some, Bool.and_eq_true,
        Bool.not_eq_true'] at opens
      exact skipBlanks_cons opens.1.1

/-- Whether a literal may begin with a character. -/
def startsLiteral (char : Char) : Bool := char == '-' || char.isDigit

theorem ne_of_startsLiteral {other : Char} (starts : startsLiteral char = true)
    (no : startsLiteral other = false) : char ≠ other := by
  rintro rfl
  rw [starts] at no
  contradiction

theorem IsLiteral.exists_cons {literal : List Char} (isLiteral : IsLiteral literal) :
    ∃ first others, literal = first :: others ∧ startsLiteral first = true := by
  obtain ⟨negative, ⟨isWhole, _, _⟩⟩ := isLiteral
  cases negative with
  | true => exact ⟨'-', _, rfl, rfl⟩
  | false =>
      obtain ⟨first, others, rfl, digit⟩ := isWhole.exists_cons
      exact ⟨first, _, rfl, by rw [startsLiteral, digit, Bool.or_true]⟩

theorem IsLiteral.opens {literal : List Char} (isLiteral : IsLiteral literal) :
    Opens literal := by
  obtain ⟨first, others, rfl, starts⟩ := isLiteral.exists_cons
  have other (char : Char) (no : startsLiteral char = false) : first ≠ char :=
    ne_of_startsLiteral starts no
  simp [Opens, isBlank, other ' ' rfl, other '\n' rfl,
    other '\t' rfl, other '\r' rfl, other ']' rfl, other '\x7d' rfl]

theorem Printable.opens {json : Json} (printable : json.Printable) : Opens (print json) := by
  cases printable with
  | null => rfl
  | bool truth => cases truth <;> rfl
  | number isLiteral => exact isLiteral.opens
  | string text => rfl
  | array each => rfl
  | object each => rfl

/-! ## Reading a value -/

theorem readValue_literal {literal : List Char} (isLiteral : IsLiteral literal)
    (stops : Stops rest) :
    readValue (limit + 1) (literal ++ rest) = some (.number literal, rest) := by
  have read := readNumber_literal isLiteral stops
  have blanks : skipBlanks (literal ++ rest) = literal ++ rest := isLiteral.opens.append.skipBlanks
  obtain ⟨first, others, rfl, starts⟩ := isLiteral.exists_cons
  have other (char : Char) (no : startsLiteral char = false) : first ≠ char :=
    ne_of_startsLiteral starts no
  rw [List.cons_append] at read blanks ⊢
  rw [readValue, blanks]
  simp [other '"' rfl, other '[' rfl, other '\x7b' rfl,
    other 'n' rfl, other 't' rfl, other 'f' rfl, read]

theorem encodeString_append (text : String) (rest : List Char) :
    encodeString text ++ rest = '"' :: (text.toList.flatMap encodeChar ++ '"' :: rest) := by
  simp [encodeString]

theorem readValue_string (text : String) :
    readValue (limit + 1) (encodeString text ++ rest) = some (.string text, rest) := by
  have opens : Opens (encodeString text ++ rest) := rfl
  rw [readValue, opens.skipBlanks, encodeString_append]
  simp [readString_encoded]

/-- What a value has to be read like in front of anything that does not go on with it. -/
def ReadsBack (json : Json) : Prop :=
  ∀ (limit : Nat) (rest : List Char), 2 * (print json).length ≤ limit → Stops rest →
    readValue limit (print json ++ rest) = some (json, rest)

/-- Reading begins, because there is something to read. -/
theorem ReadsBack.of_succ {json : Json} (opens : Opens (print json))
    (reads : ∀ (limit : Nat) (rest : List Char), 2 * (print json).length ≤ limit + 1 →
      Stops rest → readValue (limit + 1) (print json ++ rest) = some (json, rest)) :
    json.ReadsBack := by
  intro limit rest enough stops
  cases text : print json with
  | nil =>
      rw [text] at opens
      contradiction
  | cons first others =>
      rw [← text]
      have some : 0 < (print json).length := by simp [text]
      obtain ⟨limit, rfl⟩ : ∃ less, limit = less + 1 := ⟨limit - 1, by omega⟩
      exact reads limit rest enough stops

theorem printItems_cons (first : Json) {items : List Json} (more : items ≠ []) :
    printItems (first :: items) = print first ++ ',' :: printItems items := by
  obtain ⟨next, others, rfl⟩ := List.exists_cons_of_ne_nil more
  rfl

theorem readItems_printed {items : List Json} (nonempty : items ≠ [])
    (each : ∀ item ∈ items, ReadsBack item)
    (enough : 2 * (printItems items).length + 1 ≤ limit) :
    readItems limit (printItems items ++ ']' :: rest) = some (items, rest) := by
  induction items generalizing limit with
  | nil => contradiction
  | cons first items ih =>
      obtain ⟨limit, rfl⟩ := Nat.exists_eq_add_one_of_ne_zero (Nat.ne_zero_of_lt enough)
      have firstReads : ReadsBack first := each first List.mem_cons_self
      by_cases more : items = []
      · subst more
        have read : readValue limit (print first ++ ']' :: rest) = some (first, ']' :: rest) :=
          firstReads _ _ (by simpa [printItems] using enough) rfl
        rw [printItems, readItems, read]
        rfl
      · rw [printItems_cons first more] at enough ⊢
        rw [List.length_append, List.length_cons] at enough
        have read : readValue limit (print first ++ ',' :: (printItems items ++ ']' :: rest)) =
            some (first, ',' :: (printItems items ++ ']' :: rest)) :=
          firstReads _ _ (by omega) rfl
        have others := ih more (fun item member => each item (List.mem_cons_of_mem _ member))
          (show 2 * (printItems items).length + 1 ≤ limit by omega)
        rw [List.append_assoc, List.cons_append, readItems, read]
        show ((readItems limit (printItems items ++ ']' :: rest)).bind _) = _
        rw [others]
        rfl

theorem printMembers_cons (first : String × Json) {members : List (String × Json)}
    (more : members ≠ []) :
    printMembers (first :: members) =
      encodeString first.1 ++ ':' :: (print first.2 ++ ',' :: printMembers members) := by
  obtain ⟨next, others, rfl⟩ := List.exists_cons_of_ne_nil more
  rfl

section FirstMember

variable {name : String} {value : Json}

theorem readMembers_last (readsBack : ReadsBack value)
    (enough : 2 * (print value).length ≤ limit) :
    readMembers (limit + 1) (encodeString name ++ ':' :: (print value ++ '}' :: rest)) =
      some ([(some name, value)], rest) := by
  have opens : Opens (encodeString name ++ ':' :: (print value ++ '}' :: rest)) := rfl
  have read := readsBack _ _ enough (show Stops ('}' :: rest) from rfl)
  rw [readMembers, opens.skipBlanks, encodeString_append]
  simp only [readString_encoded, Option.bind_eq_bind, Option.bind_some,
    skipBlanks_cons (show isBlank ':' = false from rfl), read,
    skipBlanks_cons (show isBlank '}' = false from rfl)]
  rfl

theorem readMembers_next (readsBack : ReadsBack value)
    (enough : 2 * (print value).length ≤ limit) :
    readMembers (limit + 1) (encodeString name ++ ':' :: (print value ++ ',' :: rest)) =
      (readMembers limit rest).map fun (members, rest) =>
        ((some name, value) :: members, rest) := by
  have opens : Opens (encodeString name ++ ':' :: (print value ++ ',' :: rest)) := rfl
  have read := readsBack _ _ enough (show Stops (',' :: rest) from rfl)
  rw [readMembers, opens.skipBlanks, encodeString_append]
  simp only [readString_encoded, Option.bind_eq_bind, Option.bind_some,
    skipBlanks_cons (show isBlank ':' = false from rfl), read,
    skipBlanks_cons (show isBlank ',' = false from rfl), Option.map_eq_bind]
  rfl

end FirstMember

theorem readMembers_printed {members : List (String × Json)} (nonempty : members ≠ [])
    (each : ∀ member ∈ members, ReadsBack member.2)
    (enough : 2 * (printMembers members).length + 1 ≤ limit) :
    readMembers limit (printMembers members ++ '}' :: rest) =
      some (members.map fun member => (some member.1, member.2), rest) := by
  induction members generalizing limit with
  | nil => contradiction
  | cons first members ih =>
      obtain ⟨limit, rfl⟩ := Nat.exists_eq_add_one_of_ne_zero (Nat.ne_zero_of_lt enough)
      obtain ⟨name, value⟩ := first
      have firstReads : ReadsBack value := each _ List.mem_cons_self
      by_cases more : members = []
      · subst more
        rw [printMembers, List.length_append, List.length_cons] at enough
        rw [printMembers, List.append_assoc, List.cons_append,
          readMembers_last firstReads (by omega)]
        rfl
      · rw [printMembers_cons _ more] at enough ⊢
        simp only [List.length_append, List.length_cons] at enough
        have others := ih more (fun member inside => each member (List.mem_cons_of_mem _ inside))
          (show 2 * (printMembers members).length + 1 ≤ limit by omega)
        have text : encodeString name ++ ':' :: (print value ++ ',' :: printMembers members) ++
            '}' :: rest = encodeString name ++
              ':' :: (print value ++ ',' :: (printMembers members ++ '}' :: rest)) := by
          simp
        rw [text, readMembers_next firstReads (by omega), others]
        rfl

/-- Names that were read are the names of an object. -/
theorem ofMembers_named (members : List (String × Json)) :
    ofMembers (members.map fun member => (some member.1, member.2)) = .object members := by
  have named : (members.map fun member => (some member.1, member.2)).mapM
      (fun member => member.1.map fun name => (name, member.2)) = some members := by
    induction members with
    | nil => rfl
    | cons first members ih =>
        rw [List.map_cons, List.mapM_cons, ih]
        rfl
  exact congrArg (fun found => (Option.map Json.object found).getD .unpaired) named

theorem opens_items {items : List Json} (nonempty : items ≠ [])
    (each : ∀ item ∈ items, item.Printable) : Opens (printItems items) := by
  cases items with
  | nil => contradiction
  | cons first items =>
      have opens := (each first List.mem_cons_self).opens
      by_cases more : items = []
      · subst more
        exact opens
      · rw [printItems_cons first more]
        exact opens.append

theorem opens_members {members : List (String × Json)} (nonempty : members ≠ []) :
    Opens (printMembers members) := by
  cases members with
  | nil => contradiction
  | cons first members => cases members <;> rfl

theorem print_array (items : List Json) :
    print (.array items) = '[' :: (printItems items ++ [']']) := rfl

theorem print_object (members : List (String × Json)) :
    print (.object members) = '\x7b' :: (printMembers members ++ ['\x7d']) := rfl

/-- Where items are read back, so is their array. -/
theorem readsBack_array {items : List Json} (printable : ∀ item ∈ items, item.Printable)
    (each : ∀ item ∈ items, item.ReadsBack) : (Json.array items).ReadsBack := by
  refine .of_succ rfl fun limit rest enough _ => ?_
  rw [print_array, List.length_cons, List.length_append, List.length_singleton] at enough
  rw [print_array, List.cons_append, List.append_assoc, readValue,
    skipBlanks_cons (show isBlank '[' = false from rfl)]
  by_cases none : items = []
  · subst none
    rfl
  · have opens : Opens (printItems items ++ ([']'] ++ rest)) :=
      (opens_items none printable).append
    have read : readItems limit (printItems items ++ ([']'] ++ rest)) = some (items, rest) :=
      readItems_printed none each (by omega)
    simp only [opens.skipBlanks]
    split
    · next closing =>
        rw [closing] at opens
        contradiction
    · rw [read]
      rfl

/-- Where the values of members are read back, so is their object. -/
theorem readsBack_object {members : List (String × Json)}
    (each : ∀ member ∈ members, member.2.ReadsBack) : (Json.object members).ReadsBack := by
  refine .of_succ rfl fun limit rest enough _ => ?_
  rw [print_object, List.length_cons, List.length_append, List.length_singleton] at enough
  rw [print_object, List.cons_append, List.append_assoc, readValue,
    skipBlanks_cons (show isBlank '\x7b' = false from rfl)]
  by_cases none : members = []
  · subst none
    rfl
  · have opens : Opens (printMembers members ++ (['\x7d'] ++ rest)) := (opens_members none).append
    have read : readMembers limit (printMembers members ++ (['\x7d'] ++ rest)) =
        some (members.map fun member => (some member.1, member.2), rest) :=
      readMembers_printed none each (by omega)
    simp only [opens.skipBlanks]
    split
    · next closing =>
        rw [closing] at opens
        contradiction
    · rw [read, Option.map_some, ofMembers_named]

theorem Printable.readsBack {json : Json} (printable : json.Printable) : json.ReadsBack := by
  induction printable with
  | null => exact .of_succ rfl fun _ _ _ _ => rfl
  | bool truth =>
      cases truth
      · exact .of_succ rfl fun _ _ _ _ => rfl
      · exact .of_succ rfl fun _ _ _ _ => rfl
  | number isLiteral =>
      exact .of_succ isLiteral.opens fun _ _ _ stops => readValue_literal isLiteral stops
  | string text => exact .of_succ rfl fun _ _ _ _ => readValue_string text
  | array printable each => exact readsBack_array printable each
  | object _ each => exact readsBack_object each

/-- A printable value is read from its text. -/
theorem parse?_render {json : Json} (printable : json.Printable) :
    parse? json.render = some json := by
  have read : readValue (2 * (print json).length + 1) (print json ++ []) = some (json, []) :=
    printable.readsBack _ _ (Nat.le_succ _) rfl
  rw [List.append_nil] at read
  rw [parse?, render, String.toList_ofList, read]
  rfl

end BranchingStory.Json
