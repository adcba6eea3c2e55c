import BranchingStory.Json.Number
import BranchingStory.Json.Text
import BranchingStory.Proofs.Decimal.Reading

/-!
# Literals read back

A literal has a whole part without needless zeros in front, and may have a fraction and an
exponent.  It is read up to its end in front of anything that does not go on with it, and the
literals of integers and of finite numbers are of this form.  An integer of 64 bits is what
its literal is worth.
-/

namespace BranchingStory.Json

open Decimal Text

/-! ## The form of a literal -/

/-- Whether a character may go on with a literal. -/
def goesOn (char : Char) : Bool := char.isDigit || char == '.' || char == 'e' || char == 'E'

/-- A literal ends in front of this. -/
def Stops (rest : List Char) : Prop := rest.head?.any goesOn = false

/-- Digits, of which there is one. -/
structure IsRun (run : List Char) : Prop where
  nonempty : run ≠ []
  inside : ∀ char ∈ run, char.isDigit = true

/-- The digits before the point: a zero by itself, or digits that do not begin with one. -/
structure IsWhole (run : List Char) : Prop extends IsRun run where
  leading : run.head? = some '0' → run = ['0']

inductive IsFraction : List Char → Prop where
  | absent : IsFraction []
  | digits {run : List Char} (digits : IsRun run) : IsFraction ('.' :: run)

inductive IsExponent : List Char → Prop where
  | absent : IsExponent []
  | digits (negative : Bool) {run : List Char} (digits : IsRun run) :
      IsExponent ('e' :: (Binary64.signText negative ++ run))

inductive IsMagnitude : List Char → Prop where
  | parts {whole fraction exponent : List Char} (isWhole : IsWhole whole)
      (isFraction : IsFraction fraction) (isExponent : IsExponent exponent) :
      IsMagnitude (whole ++ (fraction ++ exponent))

inductive IsLiteral : List Char → Prop where
  | signed (negative : Bool) {magnitude : List Char} (isMagnitude : IsMagnitude magnitude) :
      IsLiteral (Binary64.signText negative ++ magnitude)

/-! ## Reading a literal -/

variable {run rest : List Char}

theorem IsRun.exists_cons (digits : IsRun run) :
    ∃ first others, run = first :: others ∧ first.isDigit = true := by
  obtain ⟨first, others, rfl⟩ := List.exists_cons_of_ne_nil digits.nonempty
  exact ⟨first, others, rfl, digits.inside _ List.mem_cons_self⟩

theorem Stops.noDigit (stops : Stops rest) : rest.head?.any Char.isDigit = false := by
  cases rest with
  | nil => rfl
  | cons first others =>
      simp only [Stops, List.head?_cons, Option.any_some, goesOn, Bool.or_eq_false_iff] at stops
      exact stops.1.1.1

theorem readDigits_run (digits : IsRun run) (stops : rest.head?.any Char.isDigit = false) :
    readDigits (run ++ rest) = some (run, rest) := by
  rw [readDigits, takeWhile_run digits.inside stops, dropWhile_run digits.inside stops]
  simp [digits.nonempty]

theorem readWhole_run (whole : IsWhole run) (stops : rest.head?.any Char.isDigit = false) :
    readWhole (run ++ rest) = some (run, rest) := by
  obtain ⟨first, others, rfl, -⟩ := whole.exists_cons
  by_cases zero : first = '0'
  · subst zero
    rw [whole.leading rfl]
    rfl
  · have digits := readDigits_run whole.toIsRun stops
    rw [List.cons_append] at digits ⊢
    unfold readWhole
    split
    · next same =>
        cases same
        contradiction
    · exact digits

theorem IsExponent.noDigit {exponent : List Char} (isExponent : IsExponent exponent)
    (stops : Stops rest) : (exponent ++ rest).head?.any Char.isDigit = false := by
  cases isExponent with
  | absent => exact stops.noDigit
  | digits => rfl

theorem readFraction_part {fraction exponent : List Char} (isFraction : IsFraction fraction)
    (isExponent : IsExponent exponent) (stops : Stops rest) :
    readFraction (fraction ++ (exponent ++ rest)) = some (fraction, exponent ++ rest) := by
  cases isFraction with
  | digits digits =>
      rw [List.cons_append, readFraction, readDigits_run digits (isExponent.noDigit stops)]
      rfl
  | absent =>
      rw [List.nil_append]
      unfold readFraction
      split
      · next point =>
          cases isExponent with
          | digits negative digits => cases point
          | absent =>
              rw [List.nil_append] at point
              subst point
              contradiction
      · rfl

theorem readExponent_part {exponent : List Char} (isExponent : IsExponent exponent)
    (stops : Stops rest) : readExponent (exponent ++ rest) = some (exponent, rest) := by
  cases isExponent with
  | digits negative digits =>
      have read := readDigits_run digits stops.noDigit
      rw [List.cons_append, List.append_assoc]
      cases negative with
      | true =>
          show (readDigits (_ ++ rest)).map _ = _
          rw [read]
          rfl
      | false =>
          obtain ⟨first, others, rfl, digit⟩ := digits.exists_cons
          have notMinus : first ≠ '-' := by
            rintro rfl
            contradiction
          have notPlus : first ≠ '+' := by
            rintro rfl
            contradiction
          simp only [Binary64.signText, Bool.false_eq_true, ↓reduceIte, List.nil_append]
          rw [List.cons_append] at read ⊢
          simp [readExponent, notMinus, notPlus, read]
  | absent =>
      cases rest with
      | nil => rfl
      | cons next rest =>
          simp only [Stops, List.head?_cons, Option.any_some, goesOn, Bool.or_eq_false_iff,
            beq_eq_false_iff_ne] at stops
          simp [readExponent, stops.1.2, stops.2]

/-- A literal is read up to its end. -/
theorem readNumber_literal {literal : List Char} (isLiteral : IsLiteral literal)
    (stops : Stops rest) : readNumber (literal ++ rest) = some (literal, rest) := by
  obtain ⟨negative, isMagnitude⟩ := isLiteral
  cases isMagnitude with
  | @parts whole fraction exponent isWhole isFraction isExponent =>
      have front : (fraction ++ (exponent ++ rest)).head?.any Char.isDigit = false := by
        cases isFraction with
        | absent => exact isExponent.noDigit stops
        | digits => rfl
      have wholeRead := readWhole_run isWhole front
      have fractionRead := readFraction_part isFraction isExponent stops
      have exponentRead := readExponent_part isExponent stops
      have text : Binary64.signText negative ++ (whole ++ (fraction ++ exponent)) ++ rest =
          Binary64.signText negative ++ (whole ++ (fraction ++ (exponent ++ rest))) := by
        simp
      rw [text]
      cases negative with
      | true =>
          simp only [Binary64.signText, ↓reduceIte, List.singleton_append, readNumber,
            wholeRead, Option.bind_eq_bind, Option.bind_some, fractionRead, exponentRead]
          simp
      | false =>
          obtain ⟨first, others, rfl, digit⟩ := isWhole.exists_cons
          have notSign : first ≠ '-' := by
            rintro rfl
            contradiction
          simp only [Binary64.signText, Bool.false_eq_true, ↓reduceIte, List.nil_append]
          rw [List.cons_append] at wholeRead ⊢
          simp [readNumber, notSign, wholeRead, fractionRead, exponentRead]

/-! ## The literals that are written -/

theorem isRun_digits (value : Nat) : IsRun (Numeral.digits value) :=
  ⟨Numeral.digits_ne_nil value, fun _ member => Numeral.isDigit_of_mem_digits member⟩

theorem isWhole_digits (value : Nat) : IsWhole (Numeral.digits value) := by
  refine ⟨isRun_digits value, fun leading => ?_⟩
  rw [Numeral.eq_zero_of_head_digits leading]
  rfl

theorem integerLiteral_eq (number : Int) :
    integerLiteral number =
      Binary64.signText (decide (number < 0)) ++ Numeral.digits number.natAbs := by
  cases number with
  | ofNat value =>
      show (String.ofList (Numeral.digits value)).toList = _
      rw [String.toList_ofList]
      rfl
  | negSucc less =>
      show (String.ofList ('-' :: Numeral.digits (less + 1))).toList = _
      rw [String.toList_ofList, decide_eq_true (Int.negSucc_lt_zero less)]
      rfl

theorem isLiteral_integer (number : Int) : IsLiteral (integerLiteral number) := by
  have magnitude := IsMagnitude.parts (isWhole_digits number.natAbs) .absent .absent
  rw [List.append_nil, List.append_nil] at magnitude
  rw [integerLiteral_eq]
  exact .signed _ magnitude

theorem isExponent_integer (number : Int) : IsExponent ('e' :: integerLiteral number) := by
  rw [integerLiteral_eq]
  exact .digits _ (isRun_digits _)

section Forms

variable {form : Form}

theorem isWhole_of_head {run : List Char} (isRun : IsRun run)
    (leading : run.head? ≠ some '0') : IsWhole run :=
  ⟨isRun, fun zero => absurd zero leading⟩

/-- A whole number is written with a zero behind the point. -/
theorem isMagnitude_whole (places : Nat) (zero : form.digits = 0 → places = 0) :
    IsMagnitude (Numeral.digits form.digits ++ List.replicate places '0' ++ ['.', '0']) := by
  have isWhole : IsWhole (Numeral.digits form.digits ++ List.replicate places '0') := by
    by_cases none : form.digits = 0
    · rw [none, zero none]
      exact isWhole_digits 0
    · refine isWhole_of_head ⟨by simp [Numeral.digits_ne_nil], fun char member => ?_⟩ ?_
      · rcases List.mem_append.1 member with member | member
        · exact Numeral.isDigit_of_mem_digits member
        · exact Form.isDigit_of_mem_zeros member
      · rw [List.head?_append, Option.or_of_isSome
          (List.isSome_head?.2 (Numeral.digits_ne_nil _))]
        exact fun leading => none (Numeral.eq_zero_of_head_digits leading)
  exact .parts isWhole (.digits (isRun_digits 0)) .absent

/-- The point may stand between the digits. -/
theorem isMagnitude_inside (nonzero : form.digits ≠ 0) {places : Nat} (some : places ≠ 0)
    (inside : places < (Numeral.digits form.digits).length) :
    IsMagnitude ((Numeral.digits form.digits).take places ++
      '.' :: (Numeral.digits form.digits).drop places) := by
  have isWhole : IsWhole ((Numeral.digits form.digits).take places) := by
    refine isWhole_of_head ⟨by simp [Numeral.digits_ne_nil, some], fun char member => ?_⟩ ?_
    · exact Numeral.isDigit_of_mem_digits (List.mem_of_mem_take member)
    · rw [List.head?_take, if_neg some]
      exact fun leading => nonzero (Numeral.eq_zero_of_head_digits leading)
  have isFraction : IsRun ((Numeral.digits form.digits).drop places) :=
    ⟨by simpa using inside,
      fun char member => Numeral.isDigit_of_mem_digits (List.mem_of_mem_drop member)⟩
  have magnitude := IsMagnitude.parts isWhole (.digits isFraction) .absent
  rwa [List.append_nil] at magnitude

/-- Zeros fill up the places between the point and the digits. -/
theorem isMagnitude_below (form : Form) (places : Nat) :
    IsMagnitude ('0' :: '.' :: (List.replicate places '0' ++ Numeral.digits form.digits)) := by
  have isFraction : IsRun (List.replicate places '0' ++ Numeral.digits form.digits) := by
    refine ⟨by simp [Numeral.digits_ne_nil], fun char member => ?_⟩
    rcases List.mem_append.1 member with member | member
    · exact Form.isDigit_of_mem_zeros member
    · exact Numeral.isDigit_of_mem_digits member
  have magnitude := IsMagnitude.parts (isWhole_digits 0) (.digits isFraction) .absent
  rwa [List.append_nil] at magnitude

/-- One digit stands in front of the point, and an exponent behind the others. -/
theorem isMagnitude_scientific (form : Form) (exponent : Int) :
    IsMagnitude ((Numeral.digits form.digits).take 1 ++
      (if (Numeral.digits form.digits).length = 1 then []
        else '.' :: (Numeral.digits form.digits).drop 1) ++ 'e' :: integerLiteral exponent) := by
  obtain ⟨first, others, digits, isDigit⟩ := (isRun_digits form.digits).exists_cons
  have isWhole : IsWhole [first] := by
    refine ⟨⟨by simp, fun char member => ?_⟩, fun leading => ?_⟩
    · rw [List.mem_singleton.1 member]
      exact isDigit
    · rw [Option.some.inj leading]
  have inside : ∀ char ∈ others, char.isDigit = true := fun char member =>
    (isRun_digits form.digits).inside char (by
      rw [digits]
      exact List.mem_cons_of_mem _ member)
  have isFraction : IsFraction (if (first :: others).length = 1 then [] else '.' :: others) := by
    split
    · exact .absent
    · next several => exact .digits ⟨by simpa using several, inside⟩
  rw [digits, List.append_assoc]
  exact .parts isWhole isFraction (isExponent_integer exponent)

end Forms

/-- The literal of a finite number. -/
theorem isLiteral_finite (negative : Bool) {units : Nat} (fits : Representable units) :
    IsLiteral (finiteLiteral negative units) := by
  have signed {magnitude : List Char} (isMagnitude : IsMagnitude magnitude) :
      IsLiteral (if negative then '-' :: magnitude else magnitude) := by
    cases negative
    · exact .signed false isMagnitude
    · exact .signed true isMagnitude
  unfold finiteLiteral
  dsimp only
  generalize shown : (if units = 0 then (⟨0, 0⟩ : Form) else Form.shortest .even units) = form
  have zero : form.digits = 0 → form.exponent = 0 := by
    rw [← shown]
    split
    · exact fun _ => rfl
    · next nonzero =>
        intro none
        exact absurd none ((Form.shortest_near .even nonzero).digits_ne_zero fits nonzero)
  apply signed
  split
  · next whole => exact isMagnitude_whole _ fun none => by rw [zero none]; rfl
  · next notWhole =>
      split
      · next inside =>
          have negative : form.exponent < 0 := by omega
          have nonempty : form.digits ≠ 0 := by
            intro none
            have exponent := zero none
            omega
          exact isMagnitude_inside nonempty (by omega) (by omega)
      · split
        · exact isMagnitude_below form _
        · exact isMagnitude_scientific form _

/-! ## What the literal of an integer is worth -/

/-- A digit behind others. -/
def appendDigit (value : Nat) (digit : Char) : Nat := value * 10 + (digit.toNat - '0'.toNat)

theorem le_foldl_appendDigit (run : List Char) (start : Nat) :
    start ≤ run.foldl appendDigit start := by
  induction run generalizing start with
  | nil => exact Nat.le_refl start
  | cons digit run ih =>
      have grown := ih (appendDigit start digit)
      unfold appendDigit at grown
      exact Nat.le_trans (by omega) grown

/-- Digits that form a word are collected without loss. -/
theorem foldl_addWhole {start : Nat} (small : run.foldl appendDigit start ≤ greatestWord) :
    run.foldl Collected.addWhole ⟨start, 0, false⟩ = ⟨run.foldl appendDigit start, 0, false⟩ := by
  induction run generalizing start with
  | nil => rfl
  | cons digit run ih =>
      have fits := Nat.le_trans (le_foldl_appendDigit run (appendDigit start digit)) small
      have step : Collected.addWhole ⟨start, 0, false⟩ digit =
          ⟨appendDigit start digit, 0, false⟩ := by
        rw [Collected.addWhole]
        simp only [Bool.false_or, decide_eq_true_eq]
        exact if_neg (Nat.not_lt.2 fits)
      rw [List.foldl_cons, List.foldl_cons, step, ih small]

theorem collected_digits {value : Nat} (small : value ≤ greatestWord) :
    (Numeral.digits value).foldl Collected.addWhole ⟨0, 0, false⟩ = ⟨value, 0, false⟩ := by
  have read : (Numeral.digits value).foldl appendDigit 0 = value := Numeral.ofDigits_digits value
  rw [foldl_addWhole (by rw [read]; exact small), read]

theorem numeric?_digits (negative : Bool) {value : Nat} (small : value ≤ greatestWord) :
    numeric? (Binary64.signText negative ++ Numeral.digits value) =
      wholeNumeric negative ⟨value, 0, false⟩ := by
  have run := takeWhile_run (isRun_digits value).inside
    (show [].head?.any Char.isDigit = false from rfl)
  have rest := dropWhile_run (isRun_digits value).inside
    (show [].head?.any Char.isDigit = false from rfl)
  rw [List.append_nil] at run rest
  have sign : ((Binary64.signText negative ++ Numeral.digits value).head? == some '-') =
      negative := by
    cases negative with
    | true => rfl
    | false =>
        obtain ⟨first, others, digits, isDigit⟩ := (isRun_digits value).exists_cons
        show ((Numeral.digits value).head? == some '-') = false
        rw [digits, List.head?_cons, beq_eq_false_iff_ne]
        rintro ⟨⟩
        contradiction
  have unsigned : (if negative then
      (Binary64.signText negative ++ Numeral.digits value).drop 1
      else Binary64.signText negative ++ Numeral.digits value) = Numeral.digits value := by
    cases negative <;> rfl
  rw [numeric?, sign]
  dsimp only
  rw [unsigned, run, rest, collected_digits small]

/-- An integer that is in range is what its literal is worth. -/
theorem numeric?_integer {number : Int} (low : -(UInt64.size / 2 : Nat) ≤ number)
    (high : number ≤ greatestWord) : numeric? (integerLiteral number) = some (.integer number) := by
  have small : number.natAbs ≤ greatestWord := by
    unfold greatestWord at high ⊢
    simp only [UInt64.size] at low high ⊢
    omega
  rw [integerLiteral_eq, numeric?_digits _ small]
  by_cases negative : number < 0
  · have nonzero : ¬(number.natAbs = 0 ∨ UInt64.size / 2 < number.natAbs) := by omega
    rw [decide_eq_true negative, wholeNumeric]
    simp only [Bool.false_eq_true, ↓reduceIte, Bool.not_true, if_neg nonzero]
    rw [Int.ofNat_natAbs_of_nonpos (Int.le_of_lt negative), Int.neg_neg]
  · rw [decide_eq_false negative, wholeNumeric]
    simp only [Bool.false_eq_true, ↓reduceIte, Bool.not_false]
    rw [Int.natAbs_of_nonneg (Int.not_lt.1 negative)]

end BranchingStory.Json
