import BranchingStory.Proofs.Decimal.Rounding

/-!
# Decimals that are read as a number

A decimal is read as the number in whose neighbourhood it lies, with any number of zeros
behind its digits.  The shortest decimal of a number lies there, and so does the exact one
that stands in for it.
-/

namespace BranchingStory.Decimal

variable {units : Nat}

namespace Neighbourhood

variable {numerator denominator : Nat}

theorem stepAt_le (fits : Representable units) (nonzero : units ≠ 0) : stepAt units ≤ units :=
  Nat.le_of_dvd (Nat.pos_of_ne_zero nonzero) fits.2

/-- Nothing is rounded to a magnitude that is not at least half of it. -/
theorem half_le_of_contains (fits : Representable units) (nonzero : units ≠ 0)
    (inside : (of units).contains numerator denominator = true) :
    2 * (units * denominator) ≤ numerator := by
  have step := Nat.mul_le_mul_right denominator (stepAt_le fits nonzero)
  have low := (bounds_of_contains inside).1
  omega

/-- Nothing is rounded to a magnitude that is more than half as large again. -/
theorem le_of_contains (fits : Representable units) (nonzero : units ≠ 0)
    (inside : (of units).contains numerator denominator = true) :
    numerator ≤ 6 * (units * denominator) := by
  have step := Nat.mul_le_mul_right denominator (stepAt_le fits nonzero)
  have high := (bounds_of_contains inside).2.1
  omega

end Neighbourhood

namespace Form

/-- The decimal lies in the neighbourhood of a magnitude. -/
def Near (form : Form) (units : Nat) : Prop :=
  (Neighbourhood.of units).contains (form.digits * (gridStep form.exponent).1)
    (gridStep form.exponent).2 = true

theorem gridStep_of_nonneg (places : Nat) : gridStep places =
    (4 * Nat.pow 2 unitExponent * Nat.pow 10 places, 1) := by
  unfold gridStep
  dsimp only
  rw [if_pos (Int.natCast_nonneg places), Int.toNat_natCast]

theorem gridStep_of_neg {exponent : Int} (negative : exponent < 0) : gridStep exponent =
    (4 * Nat.pow 2 unitExponent, Nat.pow 10 (-exponent).toNat) := by
  unfold gridStep
  dsimp only
  rw [if_neg (by omega)]

theorem ten_pow_pos (places : Nat) : 0 < Nat.pow 10 places := Nat.pow_pos (by decide)

theorem gridStep_pos (exponent : Int) : 0 < (gridStep exponent).2 := by
  unfold gridStep
  dsimp only
  split
  · exact Nat.one_pos
  · exact ten_pow_pos _

/-- A grid that is finer by one digit has steps of a tenth. -/
theorem gridStep_pred (exponent : Int) :
    ∃ factor, 0 < factor ∧
      10 * (gridStep (exponent - 1)).1 = factor * (gridStep exponent).1 ∧
      (gridStep (exponent - 1)).2 = factor * (gridStep exponent).2 := by
  rcases Int.lt_or_le 0 exponent with positive | nonpositive
  · obtain ⟨places, rfl⟩ : ∃ places : Nat, exponent = (places + 1 : Nat) :=
      ⟨(exponent - 1).toNat, by omega⟩
    have coarser : ((places + 1 : Nat) : Int) - 1 = places := by omega
    rw [coarser, gridStep_of_nonneg, gridStep_of_nonneg]
    refine ⟨1, Nat.one_pos, ?_, rfl⟩
    simp only [Nat.pow_eq, Nat.pow_succ, Nat.one_mul]
    rw [Nat.mul_comm, Nat.mul_assoc]
  · refine ⟨10, by decide, ?_⟩
    rcases Int.lt_or_eq_of_le nonpositive with negative | rfl
    · have places : (-(exponent - 1)).toNat = (-exponent).toNat + 1 := by omega
      rw [gridStep_of_neg (by omega), gridStep_of_neg negative, places]
      exact ⟨rfl, Nat.mul_comm _ _⟩
    · rw [gridStep_of_neg (by decide), ← Int.natCast_zero, gridStep_of_nonneg]
      simp

/-- A zero behind the digits makes no difference. -/
theorem near_zero_iff {digits : Nat} {exponent : Int} :
    Near ⟨digits * 10, exponent - 1⟩ units ↔ Near ⟨digits, exponent⟩ units := by
  obtain ⟨factor, positive, numerator, denominator⟩ := gridStep_pred exponent
  rw [Near, Near]
  dsimp only
  rw [Nat.mul_assoc, numerator, denominator, Nat.mul_left_comm, Nat.mul_comm factor,
    Nat.mul_comm factor, Neighbourhood.contains_mul positive]

/-- Zeros behind the digits make no difference. -/
theorem near_zeros_iff {digits : Nat} {exponent : Int} (zeros : Nat) :
    Near ⟨digits * Nat.pow 10 zeros, exponent - zeros⟩ units ↔
      Near ⟨digits, exponent⟩ units := by
  induction zeros with
  | zero =>
      have unscaled : digits * Nat.pow 10 0 = digits := Nat.mul_one digits
      rw [unscaled, Int.natCast_zero, Int.sub_zero]
  | succ zeros ih =>
      have digits_eq : digits * Nat.pow 10 (zeros + 1) = digits * Nat.pow 10 zeros * 10 :=
        (Nat.mul_assoc _ _ _).symm
      have exponent_eq : exponent - (zeros + 1 : Nat) = exponent - zeros - 1 := by omega
      rw [digits_eq, exponent_eq, near_zero_iff, ih]

theorem near_of_onGrid? {tie : Tie} {digits : Nat} {exponent : Int}
    (found : onGrid? tie units exponent = some digits) : Near ⟨digits, exponent⟩ units := by
  unfold onGrid? at found
  dsimp only at found
  rw [Near]
  dsimp only
  split at found
  · contradiction
  · next below _ =>
      cases found
      exact below
  · next above =>
      cases found
      exact above
  · next below above =>
      split at found
      · cases found
        exact below
      · split at found
        · cases found
          exact above
        · split at found
          · cases found
            exact above
          · cases found
            rcases Nat.mod_two_eq_zero_or_one
              (4 * units * (gridStep exponent).2 / (gridStep exponent).1) with even | odd
            · rw [even]
              exact below
            · rw [odd]
              exact above

theorem five_pow_mul_two_pow (places : Nat) :
    Nat.pow 5 places * Nat.pow 2 places = Nat.pow 10 places :=
  (Nat.mul_pow 5 2 places).symm

/-- The exact decimal of a magnitude is near. -/
theorem near_exact (nonzero : units ≠ 0) :
    Near ⟨units * Nat.pow 5 unitExponent, -(unitExponent : Int)⟩ units := by
  have negative : -(unitExponent : Int) < 0 := by decide
  have exact : units * Nat.pow 5 unitExponent * (4 * Nat.pow 2 unitExponent) =
      4 * (units * Nat.pow 10 unitExponent) := by
    rw [Nat.mul_left_comm, Nat.mul_assoc units, five_pow_mul_two_pow]
  rw [Near, gridStep_of_neg negative]
  dsimp only
  rw [exact, Int.neg_neg, Int.toNat_natCast]
  exact Neighbourhood.contains_self nonzero (ten_pow_pos _)

/-- The shortest decimal of a magnitude is near. -/
theorem shortest_near (tie : Tie) (nonzero : units ≠ 0) : (shortest tie units).Near units := by
  unfold shortest
  dsimp only
  cases search : (List.range 24).findSome? fun (finer : Nat) =>
      (onGrid? tie units (startExponent units - finer)).map fun digits =>
        (⟨digits, startExponent units - finer⟩ : Form) with
  | none => exact near_exact nonzero
  | some form =>
      obtain ⟨finer, _, found⟩ := List.exists_of_findSome?_eq_some search
      obtain ⟨digits, onGrid, rfl⟩ := Option.map_eq_some_iff.1 found
      exact near_of_onGrid? onGrid

/-- A decimal near a magnitude has a digit. -/
theorem Near.digits_ne_zero {form : Form} (fits : Representable units) (nonzero : units ≠ 0)
    (near : form.Near units) : form.digits ≠ 0 := by
  intro none
  have half := Neighbourhood.half_le_of_contains fits nonzero near
  have positive := Nat.mul_pos (Nat.pos_of_ne_zero nonzero) (gridStep_pos form.exponent)
  rw [none, Nat.zero_mul] at half
  omega

theorem two_pow_le_ten_pow (places : Nat) : Nat.pow 2 (3 * places) ≤ Nat.pow 10 places := by
  simp only [Nat.pow_eq]
  rw [Nat.pow_mul]
  exact Nat.pow_le_pow_left (by decide) places

theorem overflowUnits_le {places : Nat} (large : 401 ≤ places) :
    6 * overflowUnits ≤ 4 * Nat.pow 2 unitExponent * Nat.pow 10 places := by
  have power := Nat.pow_le_pow_right (show 0 < 10 by decide) large
  refine Nat.le_trans ?_ (Nat.mul_le_mul_left _ power)
  decide +kernel

/-- A decimal near a number is not too large for one. -/
theorem Near.exponent_le {form : Form} (fits : Representable units) (nonzero : units ≠ 0)
    (near : form.Near units) : form.exponent ≤ 400 := by
  refine Int.not_lt.1 fun large => ?_
  obtain ⟨places, exponent⟩ := Int.eq_ofNat_of_zero_le (show 0 ≤ form.exponent by omega)
  have high := Neighbourhood.le_of_contains fits nonzero near
  have digits := Nat.pos_of_ne_zero (near.digits_ne_zero fits nonzero)
  rw [exponent, gridStep_of_nonneg] at high
  have tooLarge := calc
    6 * overflowUnits
    _ ≤ 4 * Nat.pow 2 unitExponent * Nat.pow 10 places := overflowUnits_le (by omega)
    _ ≤ form.digits * (4 * Nat.pow 2 unitExponent * Nat.pow 10 places) :=
      Nat.le_mul_of_pos_left _ digits
    _ ≤ 6 * (units * 1) := high
  have inRange := fits.1
  omega

/-- A decimal near a number is not too small for one. -/
theorem Near.le_exponent {form : Form} (fits : Representable units) (nonzero : units ≠ 0)
    (near : form.Near units) : -1076 ≤ (form.digits.log2 : Int) + 3 * form.exponent := by
  refine Int.not_lt.1 fun small => ?_
  have negative : form.exponent < 0 := by omega
  obtain ⟨places, exponent⟩ : ∃ places : Nat, form.exponent = -(places : Int) :=
    ⟨(-form.exponent).toNat, by omega⟩
  have half := Neighbourhood.half_le_of_contains fits nonzero near
  have digits := near.digits_ne_zero fits nonzero
  rw [gridStep_of_neg negative, exponent, Int.neg_neg, Int.toNat_natCast] at half
  dsimp only at half
  have power : Nat.pow 2 (form.digits.log2 + 1 + (2 + unitExponent)) ≤ Nat.pow 2 (3 * places) :=
    Nat.pow_le_pow_right (by decide) (by
      unfold unitExponent
      omega)
  have size : form.digits < Nat.pow 2 (form.digits.log2 + 1) := Nat.lt_log2_self
  have tooSmall := calc
    form.digits * (4 * Nat.pow 2 unitExponent)
    _ ≤ Nat.pow 2 (form.digits.log2 + 1) * (4 * Nat.pow 2 unitExponent) :=
      Nat.mul_le_mul_right _ (Nat.le_of_lt size)
    _ = Nat.pow 2 (form.digits.log2 + 1 + (2 + unitExponent)) := by
      simp only [Nat.pow_eq, Nat.pow_add]
    _ ≤ Nat.pow 2 (3 * places) := power
    _ ≤ Nat.pow 10 places := two_pow_le_ten_pow places
    _ ≤ units * Nat.pow 10 places := Nat.le_mul_of_pos_left _ (Nat.pos_of_ne_zero nonzero)
  have positive : 0 < units * Nat.pow 10 places :=
    Nat.mul_pos (Nat.pos_of_ne_zero nonzero) (ten_pow_pos _)
  exact Nat.not_le_of_lt (by omega) half

end Form

namespace Binary64

open Form

theorem ofRatio_of_contains (negative : Bool) {numerator denominator : Nat}
    (fits : Representable units) (positive : 0 < denominator)
    (inside : (Neighbourhood.of units).contains (4 * numerator) denominator = true) :
    ofRatio negative numerator denominator = .finite negative units fits := by
  simp only [ofRatio, Neighbourhood.nearestUnits_of_contains fits positive inside, fits.1,
    ↓reduceDIte]

/-- A decimal near a number is read as the number. -/
theorem ofDecimal_of_near (negative : Bool) {digits : Nat} {exponent : Int}
    (fits : Representable units) (nonzero : units ≠ 0)
    (near : Near ⟨digits, exponent⟩ units) :
    ofDecimal negative digits exponent = .finite negative units fits := by
  have notLarge := near.exponent_le fits nonzero
  have notSmall := near.le_exponent fits nonzero
  have hasDigit := near.digits_ne_zero fits nonzero
  dsimp only at notLarge notSmall hasDigit
  unfold ofDecimal
  rw [if_neg hasDigit, if_neg (by omega), if_neg (by omega)]
  dsimp only
  rw [Near] at near
  dsimp only at near
  split
  · next nonneg =>
      obtain ⟨places, rfl⟩ := Int.eq_ofNat_of_zero_le nonneg
      rw [gridStep_of_nonneg] at near
      refine ofRatio_of_contains negative fits Nat.one_pos ?_
      simpa only [Nat.mul_assoc, Nat.mul_left_comm, Int.toNat_natCast] using near
  · next neg =>
      rw [gridStep_of_neg (by omega)] at near
      refine ofRatio_of_contains negative fits (ten_pow_pos _) ?_
      simpa only [Nat.mul_left_comm] using near

end Binary64

end BranchingStory.Decimal
