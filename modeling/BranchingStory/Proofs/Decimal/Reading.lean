import BranchingStory.Decimal.Positional
import BranchingStory.Decimal.Reading
import BranchingStory.Proofs.Decimal.Nearby
import BranchingStory.Proofs.Text.Numeral

/-!
# Numbers read back

The text that is written for a number where integers must look different is read as the
number again.  It has digits on either side of a point, and these form the shortest
decimal of the number with zeros behind it.
-/

namespace BranchingStory.Decimal

open BranchingStory.Text

/-- Digits on either side of a point. -/
structure Pointed (text whole fraction : List Char) : Prop where
  eq : text = whole ++ '.' :: fraction
  nonempty : whole ≠ []
  whole : ∀ char ∈ whole, char.isDigit = true
  fraction : ∀ char ∈ fraction, char.isDigit = true

namespace Form

variable {form : Form}

/-- The digits around the point are those of the decimal, with some zeros behind them. -/
def WrittenAs (form : Form) (text : List Char) : Prop :=
  ∃ whole fraction, Pointed text whole fraction ∧
    ∃ zeros : Nat, Numeral.ofDigits (whole ++ fraction) = form.digits * Nat.pow 10 zeros ∧
      -(fraction.length : Int) = form.exponent - zeros

theorem isDigit_of_mem_zeros {places : Nat} {char : Char}
    (member : char ∈ List.replicate places '0') : char.isDigit = true := by
  rw [List.eq_of_mem_replicate member]
  rfl

/-- A whole number is written with a zero behind the point. -/
theorem writtenAs_of_whole {places : Nat} (exponent : form.exponent = places) :
    form.WrittenAs
      (Numeral.digits form.digits ++ List.replicate places '0' ++ ['.', '0']) := by
  refine ⟨_, ['0'], ⟨rfl, ?_, ?_, by simp⟩, places + 1, ?_, ?_⟩
  · simp [Numeral.digits_ne_nil]
  · intro char member
    rcases List.mem_append.1 member with member | member
    · exact Numeral.isDigit_of_mem_digits member
    · exact isDigit_of_mem_zeros member
  · rw [List.append_assoc, ← List.replicate_succ', Numeral.ofDigits_append_zeros,
      Numeral.ofDigits_digits]
  · rw [exponent, List.length_singleton]
    omega

/-- The point may stand between the digits. -/
theorem writtenAs_of_inside {places : Nat} (exponent : form.exponent = -(places : Int))
    (inside : places < (Numeral.digits form.digits).length) :
    form.WrittenAs
      ((Numeral.digits form.digits).take ((Numeral.digits form.digits).length - places) ++
        '.' :: (Numeral.digits form.digits).drop
          ((Numeral.digits form.digits).length - places)) := by
  refine ⟨_, _, ⟨rfl, ?_, ?_, ?_⟩, 0, ?_, ?_⟩
  · rw [ne_eq, List.take_eq_nil_iff]
    simp only [Numeral.digits_ne_nil, or_false]
    omega
  · exact fun char member => Numeral.isDigit_of_mem_digits (List.mem_of_mem_take member)
  · exact fun char member => Numeral.isDigit_of_mem_digits (List.mem_of_mem_drop member)
  · rw [List.take_append_drop, Numeral.ofDigits_digits]
    exact (Nat.mul_one _).symm
  · rw [List.length_drop, exponent]
    omega

/-- Zeros fill up the places between the point and the digits. -/
theorem writtenAs_of_below {places : Nat} (exponent : form.exponent = -(places : Int))
    (below : (Numeral.digits form.digits).length ≤ places) :
    form.WrittenAs
      ('0' :: '.' :: (List.replicate (places - (Numeral.digits form.digits).length) '0' ++
        Numeral.digits form.digits)) := by
  have front : ∀ zeros : Nat, ['0'] ++ (List.replicate zeros '0' ++ Numeral.digits form.digits) =
      List.replicate (zeros + 1) '0' ++ Numeral.digits form.digits := fun _ => rfl
  refine ⟨['0'], _, ⟨rfl, by simp, by simp, ?_⟩, 0, ?_, ?_⟩
  · intro char member
    rcases List.mem_append.1 member with member | member
    · exact isDigit_of_mem_zeros member
    · exact Numeral.isDigit_of_mem_digits member
  · rw [front, Numeral.ofDigits_zeros_append, Numeral.ofDigits_digits]
    exact (Nat.mul_one _).symm
  · rw [List.length_append, List.length_replicate, exponent]
    omega

theorem positional_writtenAs (form : Form) :
    form.WrittenAs (form.positional ++ if 0 ≤ form.exponent then ['.', '0'] else []) := by
  unfold positional
  dsimp only
  split
  · next nonneg =>
      exact writtenAs_of_whole (Int.toNat_of_nonneg nonneg).symm
  · next negative =>
      have exponent : form.exponent = -((-form.exponent).toNat : Int) := by omega
      rw [List.append_nil]
      split
      · next inside => exact writtenAs_of_inside exponent inside
      · next below => exact writtenAs_of_below exponent (Nat.le_of_not_lt below)

end Form

/-! ## Reading -/

theorem isDigit_toLower {char : Char} (digit : char.isDigit = true) :
    char.toLower.isDigit = true := by
  have small : char.toLower = char := by
    simp only [Char.isDigit, Bool.and_eq_true, decide_eq_true_eq] at digit
    unfold Char.toLower
    rw [dif_neg]
    rintro ⟨upper, -⟩
    exact absurd (UInt32.le_trans upper digit.2) (by decide)
  rw [small, digit]

namespace Binary64

theorem readMagnitude?_pointed (negative : Bool) {text whole fraction : List Char}
    (pointed : Pointed text whole fraction) :
    readMagnitude? negative text =
      some (ofDecimal negative (Numeral.ofDigits (whole ++ fraction)) (-fraction.length)) := by
  obtain ⟨rfl, nonempty, inWhole, inFraction⟩ := pointed
  have fractionRun : fraction.takeWhile Char.isDigit = fraction := by
    simpa using takeWhile_run inFraction (show [].head?.any Char.isDigit = false from rfl)
  have fractionRest : fraction.dropWhile Char.isDigit = [] := by
    simpa using dropWhile_run inFraction (show [].head?.any Char.isDigit = false from rfl)
  unfold readMagnitude?
  rw [takeWhile_run inWhole rfl, dropWhile_run inWhole rfl]
  simp [fractionRun, fractionRest, nonempty, readExponent?]

/-- The decimal of a finite number is read as the number. -/
theorem readMagnitude?_shownForm (negative : Bool) {units : Nat} (fits : Representable units)
    {text : List Char} (written : (shownForm units).WrittenAs text) :
    readMagnitude? negative text = some (.finite negative units fits) := by
  obtain ⟨whole, fraction, pointed, zeros, digits, exponent⟩ := written
  rw [readMagnitude?_pointed negative pointed, digits, exponent]
  congr 1
  by_cases zero : units = 0
  · subst zero
    rw [show (shownForm 0).digits = 0 from rfl, Nat.zero_mul]
    rfl
  · refine ofDecimal_of_near negative fits zero (Form.near_zeros_iff zeros |>.2 ?_)
    rw [shownForm, if_neg zero]
    exact Form.shortest_near .up zero

/-- Digits spell no name. -/
theorem spells_pointed {text whole fraction : List Char} (pointed : Pointed text whole fraction)
    {letters : String} (name : letters.toList.head?.any Char.isDigit = false) :
    spells text letters = false := by
  obtain ⟨rfl, nonempty, inWhole, -⟩ := pointed
  obtain ⟨first, others, rfl⟩ := List.exists_cons_of_ne_nil nonempty
  have digit := isDigit_toLower (inWhole first List.mem_cons_self)
  rw [spells, beq_eq_false_iff_ne]
  intro same
  rw [← same] at name
  simp [digit] at name

theorem readSign_pointed {text whole fraction : List Char}
    (pointed : Pointed text whole fraction) (negative : Bool) :
    readSign (signText negative ++ text) = (negative, text) := by
  obtain ⟨rfl, nonempty, inWhole, -⟩ := pointed
  obtain ⟨first, others, rfl⟩ := List.exists_cons_of_ne_nil nonempty
  have digit := inWhole first List.mem_cons_self
  cases negative with
  | true => rfl
  | false =>
      simp only [signText, Bool.false_eq_true, ↓reduceIte, List.nil_append, List.cons_append]
      unfold readSign
      split
      · next same =>
          cases same
          contradiction
      · next same =>
          cases same
          contradiction
      · rfl

theorem pointedText_finite (negative : Bool) {units : Nat} (fits : Representable units) :
    (Binary64.finite negative units fits).pointedText.toList =
      signText negative ++ ((shownForm units).positional ++
        if 0 ≤ (shownForm units).exponent then ['.', '0'] else []) := by
  rw [pointedText, String.toList_ofList, List.append_assoc]

/-- A number is read from the text that is written for it. -/
theorem read?_pointedText (number : Binary64) :
    read? number.pointedText.toList = some number := by
  cases number with
  | undefined => decide
  | infinite negative => cases negative <;> decide
  | finite negative units fits =>
      have written := (shownForm units).positional_writtenAs
      obtain ⟨whole, fraction, pointed, -⟩ := id written
      have noName : ∀ letters : String, letters.toList.head?.any Char.isDigit = false →
          spells _ letters = false := fun letters => spells_pointed pointed
      rw [pointedText_finite, read?, readSign_pointed pointed]
      dsimp only
      rw [noName "inf" rfl, noName "infinity" rfl, noName "nan" rfl]
      exact readMagnitude?_shownForm negative fits written

end Binary64

end BranchingStory.Decimal
