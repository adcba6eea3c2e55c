import BranchingStory.Decimal.Shortest

/-!
# What rounds to a number

The neighbourhood of a magnitude is what it is said to be: a ratio inside it is rounded
to the magnitude.  Most of the ratio's bits beyond the 53 leading ones are the same as the
magnitude's.  Only a ratio a little below a power of two has one bit less to spare, and
then it is rounded up to that power.
-/

namespace BranchingStory.Decimal

variable {units numerator denominator : Nat}

/-- A ratio is rounded to a whole number that is at most a half off, and that is even if it
is just a half off. -/
theorem roundDiv_eq {whole : Nat}
    (low : 2 * (whole * denominator) ≤ 2 * numerator + denominator)
    (high : 2 * numerator ≤ 2 * (whole * denominator) + denominator)
    (tie : whole % 2 = 0 ∨ 2 * (whole * denominator) < 2 * numerator + denominator ∧
      2 * numerator < 2 * (whole * denominator) + denominator)
    (positive : 0 < denominator) : roundDiv numerator denominator = whole := by
  have division : numerator / denominator * denominator + numerator % denominator = numerator :=
    Nat.div_add_mod' numerator denominator
  have remainder : numerator % denominator < denominator := Nat.mod_lt _ positive
  unfold roundDiv
  dsimp only
  generalize numerator / denominator = quotient at *
  generalize numerator % denominator = rest at *
  have notAbove : quotient ≤ whole := by
    refine Nat.le_of_not_lt fun above => ?_
    have scaled := Nat.mul_le_mul_right denominator above
    rw [Nat.succ_mul] at scaled
    omega
  have notBelow : whole ≤ quotient + 1 := by
    refine Nat.le_of_not_lt fun below => ?_
    have scaled := Nat.mul_le_mul_right denominator below
    rw [Nat.succ_mul, Nat.succ_mul] at scaled
    omega
  rcases Nat.eq_or_lt_of_le notAbove with rfl | below
  · split
    · rfl
    · split <;> omega
  · have next : whole = quotient + 1 := by omega
    subst next
    have grown : (quotient + 1) * denominator = quotient * denominator + denominator :=
      Nat.succ_mul quotient denominator
    split
    · omega
    · split <;> omega

/-! ## Bits to spare -/

/-- How far magnitudes of a size lie apart. -/
def stepAt (units : Nat) : Nat := Nat.pow 2 (spareBits units)

theorem stepAt_pos (units : Nat) : 0 < stepAt units := Nat.two_pow_pos _

theorem spareBits_eq_zero (small : units < Nat.pow 2 53) : spareBits units = 0 := by
  by_cases zero : units = 0
  · subst zero
    rfl
  · have log := (Nat.log2_lt zero).2 small
    unfold spareBits
    omega

/-- A magnitude whose leading 53 bits stand above so many others has these to spare. -/
theorem spareBits_eq {spare : Nat} (low : Nat.pow 2 52 * Nat.pow 2 spare ≤ units)
    (high : units < Nat.pow 2 53 * Nat.pow 2 spare) : spareBits units = spare := by
  simp only [Nat.pow_eq] at low high
  rw [← Nat.pow_add] at low high
  have nonzero : units ≠ 0 := by
    have positive := Nat.two_pow_pos (52 + spare)
    omega
  have log := (Nat.log2_eq_iff nonzero).2 ⟨low, by rwa [Nat.add_right_comm]⟩
  unfold spareBits
  omega

/-- What has bits to spare has 53 others. -/
theorem le_of_spareBits (positive : 0 < spareBits units) :
    Nat.pow 2 52 * stepAt units ≤ units := by
  have nonzero : units ≠ 0 := by
    rintro rfl
    contradiction
  have log := (Nat.log2_eq_iff nonzero).1 rfl
  have split : units.log2 = 52 + spareBits units := by
    unfold spareBits at positive ⊢
    omega
  rw [stepAt, Nat.pow_eq, Nat.pow_eq, ← Nat.pow_add, ← split]
  exact log.1

/-- The significant bits of a magnitude that fits, moved up by those to spare. -/
theorem mul_stepAt (fits : Representable units) : units / stepAt units * stepAt units = units :=
  Nat.div_mul_cancel fits.2

/-! ## The neighbourhood -/

namespace Neighbourhood

/-- How far the lower end is off. -/
def reachBelow (units : Nat) : Nat :=
  if 1 < stepAt units ∧ units = Nat.pow 2 52 * stepAt units then stepAt units
  else 2 * stepAt units

theorem of_eq (units : Nat) : of units =
    ⟨4 * units - reachBelow units, 4 * units + 2 * stepAt units,
      units / stepAt units % 2 == 0⟩ := rfl

theorem contains_iff : (of units).contains numerator denominator = true ↔
    if units / stepAt units % 2 = 0 then
      4 * (units * denominator) ≤ numerator + reachBelow units * denominator ∧
        numerator ≤ 4 * (units * denominator) + 2 * (stepAt units * denominator)
    else
      4 * (units * denominator) - reachBelow units * denominator < numerator ∧
        numerator < 4 * (units * denominator) + 2 * (stepAt units * denominator) := by
  simp only [contains, of_eq, beq_iff_eq, Nat.sub_mul, Nat.add_mul, Nat.mul_assoc]
  split
  · rw [Bool.and_eq_true, decide_eq_true_eq, decide_eq_true_eq, Nat.sub_le_iff_le_add]
  · rw [Bool.and_eq_true, decide_eq_true_eq, decide_eq_true_eq]

theorem reachBelow_le (units : Nat) : reachBelow units ≤ 2 * stepAt units := by
  unfold reachBelow
  split <;> omega

theorem reachBelow_pos (units : Nat) : 0 < reachBelow units := by
  have positive := stepAt_pos units
  unfold reachBelow
  split <;> omega

/-- Neither end of a neighbourhood is more than half a step off. -/
theorem bounds_of_contains (inside : (of units).contains numerator denominator = true) :
    4 * (units * denominator) ≤ numerator + 2 * (stepAt units * denominator) ∧
    numerator ≤ 4 * (units * denominator) + 2 * (stepAt units * denominator) ∧
    (units / stepAt units % 2 = 0 ∨
      4 * (units * denominator) < numerator + 2 * (stepAt units * denominator) ∧
      numerator < 4 * (units * denominator) + 2 * (stepAt units * denominator)) := by
  have reach := Nat.mul_le_mul_right denominator (reachBelow_le units)
  rw [Nat.mul_assoc] at reach
  rw [contains_iff] at inside
  split at inside <;> omega

/-- Below a power of two the neighbourhood ends a quarter of a step off. -/
theorem bound_of_contains_of_power (wide : 1 < stepAt units)
    (power : units = Nat.pow 2 52 * stepAt units)
    (inside : (of units).contains numerator denominator = true) :
    4 * (units * denominator) ≤ numerator + stepAt units * denominator := by
  have reach : reachBelow units = stepAt units := if_pos ⟨wide, power⟩
  rw [contains_iff, reach] at inside
  split at inside <;> omega

/-- The magnitude itself lies in its neighbourhood. -/
theorem contains_self (nonzero : units ≠ 0) (positive : 0 < denominator) :
    (of units).contains (4 * (units * denominator)) denominator = true := by
  have below := Nat.mul_pos (reachBelow_pos units) positive
  have above := Nat.mul_pos (stepAt_pos units) positive
  have middle := Nat.mul_pos (Nat.pos_of_ne_zero nonzero) positive
  rw [contains_iff]
  split <;> omega

/-- Expanding a ratio does not move it out of the neighbourhood or into it. -/
theorem contains_mul {factor : Nat} (positive : 0 < factor) :
    (of units).contains (numerator * factor) (denominator * factor) =
      (of units).contains numerator denominator := by
  simp only [contains, ← Nat.mul_assoc, Nat.mul_le_mul_right_iff positive,
    Nat.mul_lt_mul_right positive]

/-- A ratio with as many bits to spare as a magnitude in whose neighbourhood it lies. -/
theorem nearestUnits_of_spareBits (fits : Representable units) (positive : 0 < denominator)
    (same : spareBits (numerator / denominator) = spareBits units)
    (inside : (of units).contains (4 * numerator) denominator = true) :
    nearestUnits numerator denominator = units := by
  obtain ⟨low, high, tie⟩ := bounds_of_contains inside
  have significant := mul_stepAt fits
  have scale : denominator * stepAt units = stepAt units * denominator := Nat.mul_comm _ _
  have whole : units / stepAt units * (denominator * stepAt units) = units * denominator := by
    rw [scale, ← Nat.mul_assoc, significant]
  have rounded : roundDiv numerator (denominator * stepAt units) = units / stepAt units := by
    refine roundDiv_eq ?_ ?_ ?_ (Nat.mul_pos positive (stepAt_pos units)) <;>
      rw [whole, scale] <;> omega
  unfold nearestUnits
  dsimp only
  rw [same, ← stepAt, rounded, significant]

/-- A ratio a little below a power of two, whose bits to spare are one less, is rounded up to
the power. -/
theorem nearestUnits_of_below_power {spare : Nat} (half : stepAt units = 2 * Nat.pow 2 spare)
    (power : units = Nat.pow 2 52 * stepAt units) (positive : 0 < denominator)
    (below : numerator < units * denominator)
    (inside : (of units).contains (4 * numerator) denominator = true) :
    nearestUnits numerator denominator = units := by
  have halfPositive : 0 < Nat.pow 2 spare := Nat.two_pow_pos spare
  have low := bound_of_contains_of_power (by omega) power inside
  rw [half] at low power
  have units_eq : units = Nat.pow 2 53 * Nat.pow 2 spare := by
    rw [power, ← Nat.mul_assoc]
  have scale : denominator * Nat.pow 2 spare = Nat.pow 2 spare * denominator :=
    Nat.mul_comm _ _
  have whole : Nat.pow 2 53 * (denominator * Nat.pow 2 spare) = units * denominator := by
    rw [scale, ← Nat.mul_assoc, units_eq]
  have stepPositive : 0 < Nat.pow 2 spare * denominator := Nat.mul_pos halfPositive positive
  rw [Nat.mul_assoc] at low
  have rounded : roundDiv numerator (denominator * Nat.pow 2 spare) = Nat.pow 2 53 := by
    refine roundDiv_eq ?_ ?_ (.inl rfl) (Nat.mul_pos positive halfPositive) <;>
      rw [whole, scale] <;> omega
  have halfway : Nat.pow 2 52 * (Nat.pow 2 spare * denominator) +
      Nat.pow 2 52 * (Nat.pow 2 spare * denominator) = units * denominator := by
    rw [← Nat.add_mul, ← Nat.mul_assoc, units_eq]
  have enough : Nat.pow 2 spare * denominator ≤
      Nat.pow 2 52 * (Nat.pow 2 spare * denominator) :=
    Nat.le_mul_of_pos_left _ (by decide)
  have bits : spareBits (numerator / denominator) = spare := by
    refine spareBits_eq ((Nat.le_div_iff_mul_le positive).2 ?_)
      ((Nat.div_lt_iff_lt_mul positive).2 ?_)
    · rw [Nat.mul_assoc]
      omega
    · rw [← units_eq]
      exact below
  unfold nearestUnits
  dsimp only
  rw [bits, rounded, units_eq]

/-- A ratio in the neighbourhood of a magnitude is rounded to it. -/
theorem nearestUnits_of_contains (fits : Representable units) (positive : 0 < denominator)
    (inside : (of units).contains (4 * numerator) denominator = true) :
    nearestUnits numerator denominator = units := by
  obtain ⟨low, high, -⟩ := bounds_of_contains inside
  have significant := mul_stepAt fits
  have scaled : units / stepAt units * (stepAt units * denominator) = units * denominator := by
    rw [← Nat.mul_assoc, significant]
  have stepPositive : 0 < stepAt units * denominator :=
    Nat.mul_pos (stepAt_pos units) positive
  have notAbove : numerator / denominator < Nat.pow 2 53 * stepAt units := by
    have most := Nat.mul_le_mul_right (stepAt units * denominator)
      (Nat.succ_le_of_lt (div_spareBits_lt units))
    rw [Nat.succ_mul, ← stepAt, scaled] at most
    rw [Nat.div_lt_iff_lt_mul positive, Nat.mul_assoc]
    omega
  rcases Nat.eq_zero_or_pos (spareBits units) with none | some
  · have unit : stepAt units = 1 := by
      rw [stepAt, none]
    refine nearestUnits_of_spareBits fits positive ?_ inside
    rw [none, spareBits_eq_zero]
    simpa only [unit, Nat.mul_one] using notAbove
  · by_cases below : numerator / denominator < Nat.pow 2 52 * stepAt units
    · -- Half a step below the next magnitude the ratio would have all the bits.
      rw [Nat.div_lt_iff_lt_mul positive, Nat.mul_assoc] at below
      have power : units / stepAt units = Nat.pow 2 52 := by
        refine Nat.le_antisymm (Nat.le_of_not_lt fun above => ?_)
          ((Nat.le_div_iff_mul_le (stepAt_pos units)).2 (le_of_spareBits some))
        have more := Nat.mul_le_mul_right (stepAt units * denominator) above
        rw [Nat.succ_mul, scaled] at more
        omega
      rw [power] at significant scaled
      have half : stepAt units = 2 * Nat.pow 2 (spareBits units - 1) := by
        rw [stepAt, Nat.mul_comm]
        exact congrArg (Nat.pow 2) (Nat.succ_pred_eq_of_pos some).symm
      exact nearestUnits_of_below_power half significant.symm positive
        (by rwa [scaled] at below) inside
    · exact nearestUnits_of_spareBits fits positive
        (spareBits_eq (Nat.le_of_not_lt below) notAbove) inside

end Neighbourhood

end BranchingStory.Decimal
