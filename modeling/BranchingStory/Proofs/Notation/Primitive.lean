import BranchingStory.Proofs.Decimal.Reading
import BranchingStory.Proofs.Notation.Scan
import BranchingStory.Proofs.Text.Quoted

/-!
# Texts and numbers read back

Texts, truth values and numbers are read as what was written, in front of anything that
may stand behind a datum.  An integer stays within its range while its digits are added,
because every part of it is nearer to zero than the whole.
-/

namespace BranchingStory.Notation

open Decimal Text

variable {rest : List Char}

theorem text_encode (content : String) :
    text (Quoted.encode content ++ rest) = .ok (content, rest) := by
  have decoded := Quoted.decode_encodeAll content.toList rest
  rw [Quoted.encode, List.cons_append, List.append_assoc, List.singleton_append, text]
  simp only [decoded, String.ofList_toList]

theorem truth_printed (value : Bool) :
    truth ((if value then "true" else "false").toList ++ rest) = .ok (value, rest) := by
  cases value with
  | true =>
      have read : dropText? "true" ("true".toList ++ rest) = some rest := dropText?_append "true"
      simp only [truth, ↓reduceIte, read]
  | false =>
      have read : dropText? "false" ("false".toList ++ rest) = some rest := dropText?_append "false"
      have other : dropText? "true" ("false".toList ++ rest) = none :=
        dropText?_of_head rfl (by decide)
      simp only [truth, Bool.false_eq_true, ↓reduceIte, read, other]

/-! ## Integers -/

namespace IntegerRange

variable {range : IntegerRange}

/-- A range that has zero and a number has all numbers between them. -/
theorem contains_between {sign : Int} (unit : sign = 1 ∨ sign = -1) {part whole : Nat}
    (smaller : part ≤ whole) (zero : range.contains 0 = true)
    (inRange : range.contains (sign * whole) = true) : range.contains (sign * part) = true := by
  simp only [contains, Bool.and_eq_true, decide_eq_true_eq] at *
  rcases unit with rfl | rfl <;> omega

end IntegerRange

theorem hexValue?_of_isDigit {char : Char} (digit : char.isDigit = true) :
    Quoted.hexValue? char = some (char.toNat - '0'.toNat) ∧ char.toNat - '0'.toNat < 10 := by
  simp only [Char.isDigit, Bool.and_eq_true, decide_eq_true_eq, ge_iff_le] at digit
  obtain ⟨low, high⟩ := digit
  constructor
  · exact if_pos ⟨low, high⟩
  · have bound : char.toNat ≤ 57 := UInt32.le_iff_toNat_le.1 high
    show char.toNat - 48 < 10
    omega

theorem le_ofDigitChars (run : List Char) (start : Nat) :
    start ≤ Nat.ofDigitChars 10 run start := by
  induction run generalizing start with
  | nil => exact Nat.le_of_eq Nat.ofDigitChars_nil.symm
  | cons char run ih =>
      have further := ih (10 * start + (char.toNat - '0'.toNat))
      rw [Nat.ofDigitChars_cons]
      omega

/-- Digits are added to a number as long as the whole is in range. -/
theorem addDigits_run {range : IntegerRange} {sign : Int} (unit : sign = 1 ∨ sign = -1)
    (zero : range.contains 0 = true) {run : List Char}
    (digits : ∀ char ∈ run, char.isDigit = true) {start : Nat}
    (inRange : range.contains (sign * (Nat.ofDigitChars 10 run start : Nat)) = true) :
    addDigits range sign 10 run (sign * start) =
      .ok (sign * (Nat.ofDigitChars 10 run start : Nat)) := by
  induction run generalizing start with
  | nil =>
      rw [Nat.ofDigitChars_nil]
      rfl
  | cons char run ih =>
      obtain ⟨value, small⟩ := hexValue?_of_isDigit (digits char List.mem_cons_self)
      have notUnderscore : char ≠ '_' := by
        rintro rfl
        exact absurd (digits '_' List.mem_cons_self) (by decide)
      rw [Nat.ofDigitChars_cons] at inRange ⊢
      have grows := le_ofDigitChars run (10 * start + (char.toNat - '0'.toNat))
      have scaled : sign * start * (10 : Nat) = sign * (10 * start : Nat) := by
        rw [Int.mul_assoc, ← Int.natCast_mul, Nat.mul_comm]
      have added : sign * (10 * start : Nat) + sign * (char.toNat - '0'.toNat : Nat) =
          sign * (10 * start + (char.toNat - '0'.toNat) : Nat) := by
        rw [← Int.mul_add, ← Int.natCast_add]
      have scaledInRange := IntegerRange.contains_between unit
        (show 10 * start ≤ _ by omega) zero inRange
      have addedInRange := IntegerRange.contains_between unit grows zero inRange
      rw [addDigits, if_neg notUnderscore, scaled, scaledInRange, value]
      dsimp only
      rw [if_neg (by simp), if_neg (Nat.not_le_of_lt small), added, if_pos addedInRange]
      exact ih (fun char member => digits char (List.mem_cons_of_mem _ member)) inRange

theorem isIntegerChar_of_isDigit {char : Char} (digit : char.isDigit = true) :
    isIntegerChar char = true := by
  rw [isIntegerChar, (hexValue?_of_isDigit digit).1]
  rfl

/-- The digits of a number are marked with no base but ten. -/
theorem integerBase_digits (value : Nat) (ends : Ends rest) :
    integerBase (Numeral.digits value ++ rest) = (10, Numeral.digits value ++ rest) := by
  have digits : ∀ char ∈ Numeral.digits value, char.isDigit = true :=
    fun _ => Numeral.isDigit_of_mem_digits
  have second : ∀ {mark : Char} {tail : List Char}, mark.isDigit = false →
      isDelimiter mark = false → Numeral.digits value ++ rest ≠ '0' :: mark :: tail := by
    intro mark tail notDigit notDelimiter same
    cases run : Numeral.digits value with
    | nil => exact Numeral.digits_ne_nil value run
    | cons first others =>
        rw [run] at same digits
        have after := (List.cons.inj same).2
        cases others with
        | nil =>
            rw [List.append_eq, List.nil_append] at after
            rw [after] at ends
            rw [show isDelimiter mark = true from ends] at notDelimiter
            contradiction
        | cons next others =>
            rw [(List.cons.inj after).1] at digits
            rw [digits mark (by simp)] at notDigit
            contradiction
  unfold integerBase
  split
  · next same => exact absurd same (second (by decide) (by decide))
  · next same => exact absurd same (second (by decide) (by decide))
  · next same => exact absurd same (second (by decide) (by decide))
  · rfl

theorem unsignedInteger_digits {range : IntegerRange} {sign : Int} (unit : sign = 1 ∨ sign = -1)
    (zero : range.contains 0 = true) {value : Nat}
    (inRange : range.contains (sign * value) = true) (ends : Ends rest) :
    unsignedInteger range sign (Numeral.digits value ++ rest) = .ok (sign * value, rest) := by
  have digits : ∀ char ∈ Numeral.digits value, char.isDigit = true :=
    fun _ => Numeral.isDigit_of_mem_digits
  have inside : ∀ char ∈ Numeral.digits value, isIntegerChar char = true :=
    fun char member => isIntegerChar_of_isDigit (digits char member)
  have stops : rest.head?.any isIntegerChar = false := ends.stops (by decide)
  have whole : Nat.ofDigitChars 10 (Numeral.digits value) 0 = value :=
    Nat.ofDigitChars_ten_toDigits
  have added := addDigits_run unit zero digits
    (show range.contains (sign * (Nat.ofDigitChars 10 (Numeral.digits value) 0 : Nat)) = true by
      rwa [whole])
  rw [whole, Int.natCast_zero, Int.mul_zero] at added
  have front : ((Numeral.digits value).isEmpty || (Numeral.digits value).head? == some '_') =
      false := by
    cases run : Numeral.digits value with
    | nil => exact absurd run (Numeral.digits_ne_nil value)
    | cons first others =>
        rw [run] at digits
        have notUnderscore : first ≠ '_' := by
          rintro rfl
          exact absurd (digits '_' List.mem_cons_self) (by decide)
        simp [notUnderscore]
  rw [unsignedInteger, integerBase_digits value ends]
  dsimp only
  rw [takeWhile_run inside stops, dropWhile_run inside stops, front, added]
  rfl

/-- An integer in range is read from its numeral; only a range with signs has negative
ones. -/
theorem integer_printed {range : IntegerRange} {number : Int} (zero : range.contains 0 = true)
    (signed : 0 ≤ number ∨ range.signed = true) (inRange : range.contains number = true)
    (ends : Ends rest) :
    integer range ((Numeral.integer number).toList ++ rest) = .ok (number, rest) := by
  cases number with
  | ofNat value =>
      have read := unsignedInteger_digits (.inl rfl) zero
        (by rwa [Int.one_mul] : range.contains (1 * (value : Int)) = true) ends
      rw [Int.one_mul] at read
      have digit : ∀ {sign : Char} {tail : List Char}, sign.isDigit = false →
          Numeral.digits value ++ rest ≠ sign :: tail := by
        intro sign tail notDigit same
        obtain ⟨first, others, run⟩ := List.exists_cons_of_ne_nil (Numeral.digits_ne_nil value)
        rw [run] at same
        have member : sign ∈ Numeral.digits value := by
          rw [run, (List.cons.inj same).1]
          exact List.mem_cons_self
        rw [Numeral.isDigit_of_mem_digits member] at notDigit
        contradiction
      show integer range ((Numeral.natural value).toList ++ rest) = _
      rw [Numeral.natural, String.toList_ofList]
      unfold integer
      split
      · next same => exact absurd same (digit (by decide))
      · next same => exact absurd same (digit (by decide))
      · exact read
  | negSucc less =>
      have signs : range.signed = true := by
        rcases signed with nonneg | signs
        · contradiction
        · exact signs
      have read := unsignedInteger_digits (.inr rfl) zero
        (by rwa [Int.neg_one_mul] : range.contains (-1 * ((less + 1 : Nat) : Int)) = true) ends
      rw [Int.neg_one_mul] at read
      show integer range ((String.ofList ('-' :: Numeral.digits (less + 1))).toList ++ rest) = _
      rw [String.toList_ofList, List.cons_append, integer]
      · exact read
      · exact signs

/-! ## Numbers with a fraction -/

/-- Digits are no name of a number. -/
theorem namedFloat?_digits {text whole fraction : List Char}
    (pointed : Pointed text whole fraction) (negative : Bool) (rest : List Char) :
    namedFloat? (Binary64.signText negative ++ text ++ rest) = none := by
  obtain ⟨rfl, nonempty, inWhole, -⟩ := pointed
  obtain ⟨first, others, rfl⟩ := List.exists_cons_of_ne_nil nonempty
  have digit := inWhole first List.mem_cons_self
  have other : ∀ {letter : Char}, letter.isDigit = false → letter ≠ first := by
    rintro letter notDigit rfl
    rw [digit] at notDigit
    contradiction
  have infinity : 'i' ≠ first := other (by decide)
  have undefined : 'N' ≠ first := other (by decide)
  have plus : '+' ≠ first := other (by decide)
  have minus : '-' ≠ first := other (by decide)
  cases negative <;>
    simp [namedFloat?, namedFloats, dropWord?, dropText?, Binary64.signText,
      infinity, undefined, plus, minus]

/-- The names that are written are found, where no word goes on. -/
theorem namedFloat?_named (stops : rest.head?.any isWordChar = false) :
    namedFloat? ("inf".toList ++ rest) = some (.infinite false, rest) ∧
    namedFloat? ("-inf".toList ++ rest) = some (.infinite true, rest) ∧
    namedFloat? ("NaN".toList ++ rest) = some (.undefined, rest) := by
  have found : ∀ name : String, dropWord? name (name.toList ++ rest) = some rest :=
    fun _ => dropWord?_append stops
  refine ⟨?_, ?_, ?_⟩
  · simp only [namedFloat?, namedFloats, List.findSome?_cons, found, Option.map_some]
  · have first : dropWord? "inf" ("-inf".toList ++ rest) = none :=
      dropWord?_of_head rfl (by decide)
    have second : dropWord? "+inf" ("-inf".toList ++ rest) = none :=
      dropWord?_of_head rfl (by decide)
    simp only [namedFloat?, namedFloats, List.findSome?_cons, first, second, found,
      Option.map_none, Option.map_some]
  · have first : dropWord? "inf" ("NaN".toList ++ rest) = none :=
      dropWord?_of_head rfl (by decide)
    have second : dropWord? "+inf" ("NaN".toList ++ rest) = none :=
      dropWord?_of_head rfl (by decide)
    have third : dropWord? "-inf" ("NaN".toList ++ rest) = none :=
      dropWord?_of_head rfl (by decide)
    simp only [namedFloat?, namedFloats, List.findSome?_cons, first, second, third, found,
      Option.map_none, Option.map_some]

theorem isFloatChar_of_pointed {text whole fraction : List Char}
    (pointed : Pointed text whole fraction) (negative : Bool) :
    ∀ char ∈ Binary64.signText negative ++ text, isFloatChar char = true := by
  obtain ⟨rfl, -, inWhole, inFraction⟩ := pointed
  have digit : ∀ char : Char, char.isDigit = true → isFloatChar char = true := by
    intro char isDigit
    simp only [isFloatChar, isDigit, Bool.true_or]
  intro char member
  rw [List.mem_append, List.mem_append, List.mem_cons] at member
  rcases member with sign | before | rfl | behind
  · cases negative with
    | true =>
        rw [List.mem_singleton.1 sign]
        rfl
    | false => exact absurd sign List.not_mem_nil
  · exact digit char (inWhole char before)
  · rfl
  · exact digit char (inFraction char behind)

/-- A number is read from the text that is written for it. -/
theorem float_pointedText (number : Binary64) (ends : Ends rest) :
    float (number.pointedText.toList ++ rest) = .ok (number, rest) := by
  have words : rest.head?.any isWordChar = false := ends.stops (by decide)
  obtain ⟨positive, negative, undefined⟩ := namedFloat?_named words
  cases number with
  | undefined =>
      show float ("NaN".toList ++ rest) = _
      rw [float, undefined]
  | infinite sign =>
      cases sign with
      | false =>
          show float ("inf".toList ++ rest) = _
          rw [float, positive]
      | true =>
          show float ("-inf".toList ++ rest) = _
          rw [float, negative]
  | finite sign units fits =>
      obtain ⟨whole, fraction, pointed, -⟩ := (Binary64.shownForm units).positional_writtenAs
      have read := Binary64.read?_pointedText (.finite sign units fits)
      have stops : rest.head?.any isFloatChar = false := ends.stops (by decide)
      have inside := isFloatChar_of_pointed pointed sign
      have unnamed := namedFloat?_digits pointed sign rest
      rw [Binary64.pointedText_finite] at read ⊢
      rw [float, unnamed]
      dsimp only
      rw [takeWhile_run inside stops, dropWhile_run inside stops, read]

end BranchingStory.Notation
