import BranchingStory.Event.Rule

/-!
# Variables as numbers and as truth values

Rules and gates read a variable as a whole number or as a truth value.  Whole numbers are
kept in 64 bits; here they are integers without bounds, so that sums and comparisons can be
told apart from the range within which they are held.
-/

namespace BranchingStory

/-- The integer for which a variable stands; unset and without an integer it is zero. -/
def integerIn : Option Value → Int
  | some (.int number) => number.toInt
  | some (.float number) => number.truncate.toInt
  | some (.string _) | some (.bool _) | none => 0

/-- A variable counts as true: it is set to truth, to a text that is not empty, or to a number
that is not zero.  What is infinite or undefined is not zero. -/
def TruthIn : Option Value → Prop
  | some (.bool truth) => truth = true
  | some (.int number) => number.toInt ≠ 0
  | some (.float (.finite _ units _)) => units ≠ 0
  | some (.float (.infinite _)) | some (.float .undefined) => True
  | some (.string text) => text ≠ ""
  | none => False

/-- What a sum is as a new number of a variable: held within 64 bits, and for the score of
responsibility also not below zero. -/
def heldSum (key : String) (sum : Int) : Int :=
  let held := max Int64.minValue.toInt (min sum Int64.maxValue.toInt)
  if key = responsibilityKey then max held 0 else held

theorem Int64.max_toInt (left right : Int64) :
    (max left right).toInt = max left.toInt right.toInt := by
  rw [show max left right = if left ≤ right then right else left from rfl]
  split
  next below =>
    have integers := Int64.le_iff_toInt_le.1 below
    omega
  next above =>
    have integers := Int.not_le.1 (mt Int64.le_iff_toInt_le.2 above)
    omega

theorem saturatingAdd_toInt (left right : Int64) :
    (saturatingAdd left right).toInt =
      max Int64.minValue.toInt (min (left.toInt + right.toInt) Int64.maxValue.toInt) := by
  have low := Int64.toInt_minValue
  have high := Int64.toInt_maxValue
  unfold saturatingAdd Int64.ofIntClamp
  split
  next above =>
    split
    next below =>
      rw [Int64.toInt_ofIntLE]
      omega
    next below => omega
  next below => omega

theorem addedTo_toInt (key : String) (number amount : Int64) :
    (addedTo key number amount).toInt = heldSum key (number.toInt + amount.toInt) := by
  unfold addedTo heldSum
  by_cases named : key = responsibilityKey
  · simp only [named, if_true, Int64.max_toInt, saturatingAdd_toInt, leastResponsibility,
      Int64.toInt_zero]
  · simp only [named, if_false, saturatingAdd_toInt]

variable {σ : Type} [PlayerState σ]

theorem numberOf_toInt (state : σ) (key : String) :
    (numberOf state key).toInt = integerIn (PlayerState.get? state key) := by
  unfold numberOf
  match PlayerState.get? state key with
  | none | some (.int _) | some (.float _) | some (.string _) | some (.bool _) => rfl

theorem isTruthy_iff (value : Value) : value.isTruthy = true ↔ TruthIn (some value) := by
  match value with
  | .bool truth => rfl
  | .int number =>
      rw [Value.isTruthy, TruthIn, bne_iff_ne, ne_eq, ne_eq, ← Int64.toInt_inj, Int64.toInt_zero]
  | .float (.finite negative units fits) =>
      simp only [Value.isTruthy, Decimal.Binary64.isZero, TruthIn, Bool.not_eq_true',
        beq_eq_false_iff_ne]
  | .float (.infinite negative) | .float .undefined =>
      simp only [Value.isTruthy, Decimal.Binary64.isZero, TruthIn, Bool.not_false]
  | .string text =>
      simp only [Value.isTruthy, TruthIn, Bool.not_eq_true', String.isEmpty_eq_false_iff]

theorem flagOf_iff (state : σ) (key : String) :
    flagOf state key = true ↔ TruthIn (PlayerState.get? state key) := by
  unfold flagOf
  cases PlayerState.get? state key with
  | none => simp only [Option.any_none, Bool.false_eq_true, TruthIn]
  | some value => exact isTruthy_iff value

end BranchingStory
