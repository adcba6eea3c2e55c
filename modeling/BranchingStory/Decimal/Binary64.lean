/-!
# Binary numbers of double precision

A number is held exactly: its magnitude is a count of units of `2 ^ -1074`, the
smallest step of the format, so equality, truncation and rounding are questions
about natural numbers. `Representable` says which counts the format can hold, and
`ofRatio` rounds any ratio to the nearest of them. `representable_nearestUnits`
is why that rounding always lands on a value of the type.
-/

namespace BranchingStory.Decimal

/-- The exponent of the unit: magnitudes count steps of `2 ^ -unitExponent`. -/
def unitExponent : Nat := 1074

/-- The least count of units that is too large for a finite number. -/
def overflowUnits : Nat := Nat.pow 2 (unitExponent + 1024)

/-- How many low bits of a magnitude must be zero so that at most 53 bits carry it. -/
def spareBits (units : Nat) : Nat := units.log2 - 52

/-- A magnitude fits when it is in range and its significant bits number at most 53. -/
def Representable (units : Nat) : Prop :=
  units < overflowUnits ∧ Nat.pow 2 (spareBits units) ∣ units

instance (units : Nat) : Decidable (Representable units) := by
  unfold Representable
  infer_instance

theorem overflowUnits_pos : 0 < overflowUnits := by
  unfold overflowUnits
  generalize unitExponent + 1024 = places
  exact Nat.two_pow_pos places

theorem representable_zero : Representable 0 := ⟨overflowUnits_pos, Nat.dvd_zero _⟩

/-- A number of double precision. All undefined results are one value. -/
inductive Binary64 where
  | undefined
  | infinite (negative : Bool)
  | finite (negative : Bool) (units : Nat) (fits : Representable units)
  deriving DecidableEq

/-- The quotient of two counts, rounded to the nearest whole and a half to even. -/
def roundDiv (numerator denominator : Nat) : Nat :=
  let quotient := numerator / denominator
  let remainder := numerator % denominator
  if 2 * remainder < denominator then quotient
  else if denominator < 2 * remainder then quotient + 1
  else quotient + quotient % 2

theorem roundDiv_le (numerator denominator : Nat) :
    roundDiv numerator denominator ≤ numerator / denominator + 1 := by
  unfold roundDiv
  dsimp only
  split
  · omega
  · split <;> omega

/-- The magnitude of at most 53 significant bits nearest to a ratio of units. -/
def nearestUnits (numerator denominator : Nat) : Nat :=
  let spare := spareBits (numerator / denominator)
  roundDiv numerator (denominator * Nat.pow 2 spare) * Nat.pow 2 spare

/-- A significand of at most 53 bits, or the next power of two, moved up by any
number of places has no bit below its 53 leading ones. -/
theorem spareBits_dvd_of_le {significand places : Nat}
    (small : significand ≤ Nat.pow 2 53) :
    Nat.pow 2 (spareBits (significand * Nat.pow 2 places)) ∣
      significand * Nat.pow 2 places := by
  simp only [Nat.pow_eq] at small ⊢
  by_cases zero : significand = 0
  · subst zero
    rw [Nat.zero_mul]
    exact Nat.dvd_zero _
  by_cases top : significand = Nat.pow 2 53
  · subst top
    simp only [Nat.pow_eq]
    rw [← Nat.pow_add, spareBits, Nat.log2_two_pow]
    exact Nat.pow_dvd_pow 2 (by omega)
  simp only [Nat.pow_eq] at top
  have bound : significand * Nat.pow 2 places < Nat.pow 2 (53 + places) := by
    simp only [Nat.pow_eq]
    rw [Nat.pow_add]
    exact Nat.mul_lt_mul_of_pos_right (by omega) (Nat.two_pow_pos places)
  have nonzero : significand * Nat.pow 2 places ≠ 0 :=
    Nat.mul_ne_zero zero (Nat.ne_of_gt (Nat.two_pow_pos places))
  have log : (significand * Nat.pow 2 places).log2 < 53 + places :=
    (Nat.log2_lt nonzero).2 bound
  simp only [Nat.pow_eq] at log
  exact Nat.dvd_trans (Nat.pow_dvd_pow 2 (by unfold spareBits; omega))
    (Nat.dvd_mul_left _ _)

theorem div_spareBits_lt (value : Nat) :
    value / Nat.pow 2 (spareBits value) < Nat.pow 2 53 := by
  simp only [Nat.pow_eq]
  rw [Nat.div_lt_iff_lt_mul (Nat.two_pow_pos _), ← Nat.pow_add]
  by_cases zero : value = 0
  · subst zero
    exact Nat.two_pow_pos _
  · refine (Nat.log2_lt zero).1 ?_
    unfold spareBits
    omega

/-- Rounding to the nearest magnitude leaves at most 53 significant bits. -/
theorem representable_nearestUnits {numerator denominator : Nat}
    (inRange : nearestUnits numerator denominator < overflowUnits) :
    Representable (nearestUnits numerator denominator) := by
  refine ⟨inRange, ?_⟩
  unfold nearestUnits
  dsimp only
  refine spareBits_dvd_of_le ?_
  refine Nat.le_trans (roundDiv_le _ _) ?_
  rw [← Nat.div_div_eq_div_mul]
  exact div_spareBits_lt (numerator / denominator)

namespace Binary64

/-- Zero, with a sign. -/
def zero (negative : Bool) : Binary64 := .finite negative 0 representable_zero

/-- The number nearest to a ratio of units; too large a magnitude becomes infinite. -/
def ofRatio (negative : Bool) (numerator denominator : Nat) : Binary64 :=
  if inRange : nearestUnits numerator denominator < overflowUnits then
    .finite negative (nearestUnits numerator denominator)
      (representable_nearestUnits inRange)
  else
    .infinite negative

/-- The number nearest to `digits * 10 ^ exponent`. A decimal far outside the range
is infinite or zero and is settled by its size alone, without being written out. -/
def ofDecimal (negative : Bool) (digits : Nat) (exponent : Int) : Binary64 :=
  if digits = 0 then zero negative
  else if 400 < exponent then .infinite negative
  else if exponent < 0 ∧ (digits.log2 : Int) + 3 * exponent < -1076 then zero negative
  else
    let scaled := digits * Nat.pow 2 unitExponent
    if 0 ≤ exponent then ofRatio negative (scaled * Nat.pow 10 exponent.toNat) 1
    else ofRatio negative scaled (Nat.pow 10 (-exponent).toNat)

/-- The number nearest to a natural number. -/
def ofNat (value : Nat) : Binary64 := ofRatio false (value * Nat.pow 2 unitExponent) 1

/-- The same magnitude with the other sign. -/
def neg : Binary64 → Binary64
  | .undefined => .undefined
  | .infinite negative => .infinite !negative
  | .finite negative units fits => .finite (!negative) units fits

/-- Whether the number is zero of either sign. -/
def isZero : Binary64 → Bool
  | .finite _ units _ => units == 0
  | _ => false

/-- Whether the number is neither infinite nor undefined. -/
def isFinite : Binary64 → Bool
  | .finite .. => true
  | _ => false

/-- Numeric equality: both zeros are equal, and the undefined value equals nothing. -/
def equals : Binary64 → Binary64 → Bool
  | .infinite left, .infinite right => left == right
  | .finite leftNegative left _, .finite rightNegative right _ =>
      left == right && (leftNegative == rightNegative || left == 0)
  | _, _ => false

/-- The whole number next toward zero, held within 64 bits: an infinite or too large
number gives the nearer end of the range, and the undefined value gives zero. -/
def truncate : Binary64 → Int64
  | .undefined => 0
  | .infinite true => Int64.minValue
  | .infinite false => Int64.maxValue
  | .finite negative units _ =>
      let whole : Int := (units / Nat.pow 2 unitExponent : Nat)
      Int64.ofIntClamp (if negative then -whole else whole)

/-- Product of a finite number and a finite positive one, rounded once. Only the
scaling of decimal text uses it, where the other cases do not arise. -/
def scaleUp (value factor : Binary64) : Binary64 :=
  match value, factor with
  | .finite negative left _, .finite _ right _ =>
      ofRatio negative (left * right) (Nat.pow 2 unitExponent)
  | _, _ => .undefined

/-- Quotient of a finite number by a finite positive one, rounded once. -/
def scaleDown (value divisor : Binary64) : Binary64 :=
  match value, divisor with
  | .finite negative left _, .finite _ right _ =>
      ofRatio negative (left * Nat.pow 2 unitExponent) right
  | _, _ => .undefined

end Binary64

end BranchingStory.Decimal
