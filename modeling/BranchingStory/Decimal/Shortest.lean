import BranchingStory.Decimal.Binary64

/-!
# The shortest decimal that reads back

Every representable magnitude has a neighbourhood of reals that round to it. The
shortest decimal is the one on the coarsest decimal grid that meets the
neighbourhood; of two grid points inside it the nearer is taken, and only an exact
tie needs a rule. All comparisons are between natural numbers, counted in quarters
of a unit so that both ends of the neighbourhood are whole.
-/

namespace BranchingStory.Decimal

/-- A decimal number: a count of digits' worth times a power of ten. -/
structure Form where
  digits : Nat
  exponent : Int
  deriving DecidableEq, Repr

/-- Which of two equally near grid points is taken. -/
inductive Tie where
  | up
  | even
  deriving DecidableEq, Repr

/-- The reals that round to a magnitude, in quarters of a unit. -/
structure Neighbourhood where
  low : Nat
  high : Nat
  /-- Whether the two ends round to the magnitude as well. -/
  closed : Bool

namespace Neighbourhood

/-- Half a step to either side; below a power of two the steps are half as wide. An
end is a tie between two magnitudes, which goes to the even significand. -/
def of (units : Nat) : Neighbourhood :=
  let step := Nat.pow 2 (spareBits units)
  let below := if 1 < step ∧ units = Nat.pow 2 52 * step then step else 2 * step
  ⟨4 * units - below, 4 * units + 2 * step, units / step % 2 == 0⟩

/-- Whether a ratio of quarter units lies inside. -/
def contains (neighbourhood : Neighbourhood) (numerator denominator : Nat) : Bool :=
  if neighbourhood.closed then
    neighbourhood.low * denominator ≤ numerator &&
      numerator ≤ neighbourhood.high * denominator
  else
    neighbourhood.low * denominator < numerator &&
      numerator < neighbourhood.high * denominator

end Neighbourhood

namespace Form

/-- One step of the grid `10 ^ exponent`, as a ratio of quarter units. -/
def gridStep (exponent : Int) : Nat × Nat :=
  let one := 4 * Nat.pow 2 unitExponent
  if 0 ≤ exponent then (one * Nat.pow 10 exponent.toNat, 1)
  else (one, Nat.pow 10 (-exponent).toNat)

/-- The grid point that stands for a magnitude on the grid `10 ^ exponent`, if one of
its two neighbours there lies in the neighbourhood of the magnitude. -/
def onGrid? (tie : Tie) (units : Nat) (exponent : Int) : Option Nat :=
  let neighbourhood := Neighbourhood.of units
  let (step, denominator) := gridStep exponent
  let value := 4 * units * denominator
  let below := value / step
  let above := below + 1
  match neighbourhood.contains (below * step) denominator,
      neighbourhood.contains (above * step) denominator with
  | false, false => none
  | true, false => some below
  | false, true => some above
  | true, true =>
      let twice := 2 * (value - below * step)
      if twice < step then some below
      else if step < twice then some above
      else match tie with
        | .up => some above
        | .even => some (below + below % 2)

/-- A power of ten above the magnitude, where the search for a grid starts. -/
def startExponent (units : Nat) : Int :=
  ((units.log2 : Int) + 1 - unitExponent) * 30103 / 100000 + 1

/-- The shortest decimal for a nonzero magnitude. Grids are tried from the coarsest;
should none of them meet the neighbourhood, the exact decimal of the magnitude
stands in, which reads back as well. -/
def shortest (tie : Tie) (units : Nat) : Form :=
  let start := startExponent units
  let found := (List.range 24).findSome? fun (finer : Nat) =>
    (onGrid? tie units (start - finer)).map fun digits =>
      (⟨digits, start - finer⟩ : Form)
  found.getD ⟨units * Nat.pow 5 unitExponent, -(unitExponent : Int)⟩

end Form

end BranchingStory.Decimal
