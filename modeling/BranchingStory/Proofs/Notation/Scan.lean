import Mathlib.Data.List.Forall2
import BranchingStory.Notation.Printer
import BranchingStory.Notation.Scan
import BranchingStory.Proofs.Text.Numeral

/-!
# Elements and words read back

What is written begins with a character that begins a datum and ends where a comma, a
closing mark or nothing follows.  So no gap is found where none was written, the elements
between two marks are those that were written there, and a word ends where it was ended.
-/

namespace BranchingStory.Notation

open Decimal Text

variable {rest : List Char}

/-! ## Where a datum begins and ends -/

/-- A comma or a closing mark. -/
def isDelimiter (char : Char) : Bool :=
  char == ',' || char == ')' || char == ']' || char == '}'

/-- Nothing follows, or what follows is delimited. -/
def Ends (rest : List Char) : Prop := rest.head?.all isDelimiter = true

/-- A character that may begin a datum. -/
def isOpening (char : Char) : Bool :=
  !isDelimiter char && !isBlank char && char != '/' && char != '#'

theorem isOpening_iff {char : Char} : isOpening char = true ↔
    char ∉ [',', ')', ']', '}', ' ', '\t', '\n', '\r', '/', '#'] := by
  simp [isOpening, isDelimiter, isBlank, and_assoc]

/-- What none of the marks between data belongs to begins a datum. -/
theorem isOpening_of_belongs {belongs : Char → Bool} {char : Char}
    (belonging : belongs char = true)
    (outside : [',', ')', ']', '}', ' ', '\t', '\n', '\r', '/', '#'].any belongs = false) :
    isOpening char = true := by
  refine isOpening_iff.2 fun member => ?_
  rw [List.any_eq_true.2 ⟨char, member, belonging⟩] at outside
  contradiction

/-- The characters begin with a datum. -/
def Begins (input : List Char) : Prop := input.head?.any isOpening = true

theorem Begins.append {input : List Char} (begins : Begins input) : Begins (input ++ rest) := by
  cases input with
  | nil => contradiction
  | cons first others => exact begins

theorem Begins.ne_nil {input : List Char} (begins : Begins input) : input ≠ [] := by
  rintro rfl
  contradiction

theorem Ends.nil : Ends [] := rfl

theorem Ends.comma (rest : List Char) : Ends (',' :: rest) := rfl

theorem isDelimiter_cases {char : Char} (delimiter : isDelimiter char = true) :
    char = ',' ∨ char = ')' ∨ char = ']' ∨ char = '}' := by
  simpa only [isDelimiter, Bool.or_eq_true, beq_iff_eq, or_assoc] using delimiter

/-- What no delimiter belongs to does not go on. -/
theorem Ends.stops {belongs : Char → Bool} (ends : Ends rest)
    (outside : [',', ')', ']', '}'].any belongs = false) : rest.head?.any belongs = false := by
  cases rest with
  | nil => rfl
  | cons next rest =>
      simp only [List.any_cons, List.any_nil, Bool.or_false, Bool.or_eq_false_iff] at outside
      obtain ⟨comma, parenthesis, bracket, brace⟩ := outside
      rcases isDelimiter_cases ends with rfl | rfl | rfl | rfl <;> assumption

/-! ## Gaps -/

theorem skipGap_cons {next : Char} (notBlank : isBlank next = false) (notSlash : next ≠ '/') :
    skipGap (next :: rest) = .ok (next :: rest) := by
  simp [skipGap, skipGapFrom, notBlank, notSlash]

theorem skipGap_of_ends (ends : Ends rest) : skipGap rest = .ok rest := by
  cases rest with
  | nil => rfl
  | cons next rest =>
      rcases isDelimiter_cases ends with rfl | rfl | rfl | rfl <;> rfl

theorem skipGap_of_begins {input : List Char} (begins : Begins input) :
    skipGap input = .ok input := by
  cases input with
  | nil => contradiction
  | cons next rest =>
      simp only [Begins, List.head?_cons, Option.any_some, isOpening, Bool.and_eq_true,
        Bool.not_eq_true', bne_iff_ne] at begins
      exact skipGap_cons begins.1.1.2 begins.1.2

theorem comma_comma {input : List Char} (begins : Begins input) :
    comma (',' :: input) = .ok (true, input) := by
  rw [comma, skipGap_cons (by rfl) (by decide)]
  simp only [bind, Except.bind, skipGap_of_begins begins, pure, Except.pure]

theorem comma_of_ends {next : Char} (delimiter : isDelimiter next = true) (notComma : next ≠ ',') :
    comma (next :: rest) = .ok (false, next :: rest) := by
  rw [comma, skipGap_of_ends (show Ends (next :: rest) from delimiter)]
  simp [bind, Except.bind, pure, Except.pure, notComma]

/-! ## Elements -/

theorem begins_separatedByCommas {first : List Char} {others : List (List Char)}
    (begins : Begins first) : Begins (separatedByCommas (first :: others)) := by
  cases others with
  | nil => exact begins
  | cons next others => exact begins.append

theorem length_le_separatedByCommas {texts : List (List Char)}
    (begins : ∀ text ∈ texts, Begins text) :
    texts.length ≤ (separatedByCommas texts).length := by
  induction texts with
  | nil => exact Nat.le_refl 0
  | cons first others ih =>
      have positive := List.length_pos_iff.2 (begins first List.mem_cons_self).ne_nil
      have remaining := ih fun text member => begins text (List.mem_cons_of_mem _ member)
      cases others with
      | nil => exact positive
      | cons next others =>
          simp only [separatedByCommas, List.length_append, List.length_cons] at remaining ⊢
          omega

/-- What closes a list. -/
structure Closes (close : Char) : Prop where
  delimiter : isDelimiter close = true
  notComma : close ≠ ','

theorem Closes.ends {close : Char} (closes : Closes close) : Ends (close :: rest) :=
  closes.delimiter

theorem hasElement_of_begins {close : Char} (closes : Closes close) {input : List Char}
    (begins : Begins input) : hasElement close true input = .ok (true, input) := by
  rw [hasElement, skipGap_of_begins begins]
  cases input with
  | nil => contradiction
  | cons next rest =>
      have notClosing : next ≠ close := by
        rintro rfl
        simp [Begins, isOpening, closes.delimiter] at begins
      simp [bind, Except.bind, pure, Except.pure, notClosing]

theorem hasElement_of_closes {close : Char} (closes : Closes close) (separated : Bool) :
    hasElement close separated (close :: rest) = .ok (false, close :: rest) := by
  rw [hasElement, skipGap_of_ends closes.ends]
  simp [bind, Except.bind, pure, Except.pure]

section Elements

variable {α β : Type} {close : Char} {element : List Char → Except Fault (β × List Char)}
  {value : α → β}

/-- What reading comes to where it goes deep enough for a value, and where it does not. -/
def verdict (shallow : Bool) (value : β) (rest : List Char) : Except Fault (β × List Char) :=
  if shallow then .ok (value, rest) else .error .tooDeep

/-- A reader takes a text for a value, or does not go deep enough for it. -/
structure Gives (read : List Char → Except Fault (β × List Char)) (text : List Char)
    (shallow : Bool) (value : β) : Prop where
  begins : Begins text
  reads : ∀ {rest}, Ends rest → read (text ++ rest) = verdict shallow value rest

theorem elements_closing (closes : Closes close) (limit : Nat) (separated : Bool) :
    elements close element (limit + 1) separated (close :: rest) = .ok ([], close :: rest) := by
  rw [elements, hasElement_of_closes closes]
  rfl

/-- One element is read in front of the others. -/
theorem elements_cons (closes : Closes close) {first : List Char} {shallow : Bool} {found : β}
    (gives : Gives element first shallow found) (limit : Nat) {rest : List Char}
    (ends : Ends rest) :
    elements close element (limit + 1) true (first ++ rest) =
      if shallow then (comma rest).bind fun (separated, rest) =>
        (elements close element limit separated rest).map fun (others, rest) =>
          (found :: others, rest)
      else .error .tooDeep := by
  rw [elements, hasElement_of_begins closes gives.begins.append]
  simp only [bind, Except.bind, ↓reduceIte, gives.reads ends, verdict]
  cases shallow with
  | false => rfl
  | true =>
      simp only [↓reduceIte]
      cases comma rest with
      | error fault => rfl
      | ok after =>
          obtain ⟨separated, rest⟩ := after
          cases elements close element limit separated rest <;> rfl

/-- Elements with commas between them are read one by one, as long as reading goes deep
enough. -/
theorem elements_verdict (closes : Closes close) {items : List α} {texts : List (List Char)}
    {shallow : α → Bool}
    (each : List.Forall₂ (fun item text => Gives element text (shallow item) (value item))
      items texts) {limit : Nat} (enough : items.length < limit) :
    elements close element limit true (separatedByCommas texts ++ close :: rest) =
      verdict (items.all shallow) (items.map value) (close :: rest) := by
  induction each generalizing limit with
  | nil =>
      obtain ⟨limit, rfl⟩ := Nat.exists_eq_add_one_of_ne_zero (Nat.ne_of_gt enough)
      exact elements_closing closes limit true
  | @cons item first items others gives later ih =>
      obtain ⟨limit, rfl⟩ := Nat.exists_eq_add_one_of_ne_zero (Nat.ne_zero_of_lt enough)
      have fewer : items.length < limit := Nat.lt_of_succ_lt_succ enough
      rw [List.all_cons]
      cases later with
      | nil =>
          obtain ⟨limit, rfl⟩ := Nat.exists_eq_add_one_of_ne_zero (Nat.ne_of_gt fewer)
          rw [separatedByCommas, elements_cons closes gives _ closes.ends,
            comma_of_ends closes.delimiter closes.notComma]
          simp only [Except.bind, elements_closing closes]
          cases shallow item <;> rfl
      | @cons next second items others nextGives later =>
          have othersBegin : Begins (separatedByCommas (second :: others) ++ close :: rest) :=
            (begins_separatedByCommas nextGives.begins).append
          have split : separatedByCommas (first :: second :: others) ++ close :: rest =
              first ++ ',' :: (separatedByCommas (second :: others) ++ close :: rest) :=
            List.append_assoc _ _ _
          rw [split, elements_cons closes gives _ (Ends.comma _), comma_comma othersBegin]
          simp only [Except.bind, ih fewer, verdict]
          cases shallow item with
          | false => rfl
          | true => cases (next :: items).all shallow <;> rfl

theorem begins_of_gives {items : List α} {texts : List (List Char)} {shallow : α → Bool}
    (each : List.Forall₂ (fun item text => Gives element text (shallow item) (value item))
      items texts) : ∀ text ∈ texts, Begins text := by
  induction each with
  | nil => exact fun _ member => absurd member List.not_mem_nil
  | cons gives _ ih => exact List.forall_mem_cons.2 ⟨gives.begins, ih⟩

/-- The elements in front of a closing mark are no more than there are characters. -/
theorem elements_given (closes : Closes close) {items : List α} {texts : List (List Char)}
    {shallow : α → Bool}
    (each : List.Forall₂ (fun item text => Gives element text (shallow item) (value item))
      items texts) (rest : List Char) :
    elements close element ((separatedByCommas texts ++ close :: rest).length + 1) true
        (separatedByCommas texts ++ close :: rest) =
      verdict (items.all shallow) (items.map value) (close :: rest) := by
  have fewer := length_le_separatedByCommas (begins_of_gives each)
  refine elements_verdict closes each ?_
  rw [each.length_eq, List.length_append]
  omega

end Elements

/-! ## Words -/

theorem dropText?_append (text : String) : dropText? text (text.toList ++ rest) = some rest := by
  have inFront : text.toList.isPrefixOf (text.toList ++ rest) = true :=
    List.isPrefixOf_iff_prefix.2 (List.prefix_append _ _)
  rw [dropText?, if_pos inFront, ← String.length_toList, List.drop_left]

theorem dropText?_of_head {text : String} {first next : Char}
    (begins : text.toList.head? = some first) (other : first ≠ next) :
    dropText? text (next :: rest) = none := by
  obtain ⟨letters, spelled⟩ := List.head?_eq_some_iff.1 begins
  have notInFront : text.toList.isPrefixOf (next :: rest) = false := by
    simp [spelled, List.isPrefixOf, other]
  rw [dropText?, notInFront]
  rfl

theorem dropWord?_of_head {word : String} {first next : Char}
    (begins : word.toList.head? = some first) (other : first ≠ next) :
    dropWord? word (next :: rest) = none := by
  rw [dropWord?, dropText?_of_head begins other]
  rfl

theorem dropWord?_append {word : String} (stops : rest.head?.any isWordChar = false) :
    dropWord? word (word.toList ++ rest) = some rest := by
  rw [dropWord?, dropText?_append, Option.filter_some, stops]
  rfl

/-- A word is read up to what no word of any kind goes on with. -/
theorem identifier_of_isWord {name : String} (word : isWord name = true) {next : Char}
    (delimited : next = ':' ∨ next = '(') :
    identifier (name.toList ++ next :: rest) = .ok (name, next :: rest) := by
  rw [isWord, Bool.and_eq_true, List.all_eq_true] at word
  obtain ⟨start, inside⟩ := word
  have stops : (next :: rest).head?.any isWordChar = false := by
    rcases delimited with rfl | rfl <;> rfl
  have notRaw : (next :: rest).head?.any isRawChar = false := by
    rcases delimited with rfl | rfl <;> rfl
  have run := takeWhile_run inside stops
  have after := dropWhile_run inside stops
  have name_eq := String.ofList_toList (s := name)
  cases letters : name.toList with
  | nil =>
      rw [letters] at start
      contradiction
  | cons first others =>
      rw [letters] at start inside run after name_eq
      have second : ∀ {char : Char} {tail : List Char}, isWordChar char = false →
          char ≠ ':' → char ≠ '(' → others ++ next :: rest ≠ char :: tail := by
        intro char tail notWord notColon notParenthesis same
        cases others with
        | nil =>
            cases same
            rcases delimited with rfl | rfl <;> contradiction
        | cons second others =>
            cases same
            rw [inside char (by simp)] at notWord
            contradiction
      rw [List.cons_append] at run after ⊢
      unfold identifier
      split
      · next same =>
          cases others <;> cases same
      · next same =>
          exact absurd (List.cons.inj same).2 (second (by rfl) (by decide) (by decide))
      · next same =>
          exact absurd (List.cons.inj same).2 (second (by rfl) (by decide) (by decide))
      · next same =>
          obtain ⟨rfl, rfl⟩ := List.cons.inj same
          have starts : isWordStart first = true := start
          rw [run, after]
          dsimp only
          rw [notRaw, name_eq, starts]
          rfl
      · contradiction

end BranchingStory.Notation
