import BranchingStory.Decimal.Shortest
import BranchingStory.Text.Numeral

/-!
# Decimal text of a number

Numbers are shown with the fewest digits that read back, in positional notation at
every size: never with an exponent, and with a point only before a fraction. The
record notation asks for a point in every finite number, so that a reader can tell
a number from an integer.
-/

namespace BranchingStory.Decimal

open BranchingStory.Text

namespace Form

/-- Positional notation: zeros fill up to the point on either side of it. -/
def positional (form : Form) : List Char :=
  let digits := Numeral.digits form.digits
  if 0 ≤ form.exponent then
    digits ++ List.replicate form.exponent.toNat '0'
  else
    let places := (-form.exponent).toNat
    if places < digits.length then
      digits.take (digits.length - places) ++ '.' :: digits.drop (digits.length - places)
    else
      '0' :: '.' :: (List.replicate (places - digits.length) '0' ++ digits)

end Form

namespace Binary64

/-- The sign as it is written in front of a number. -/
def signText (negative : Bool) : List Char := if negative then ['-'] else []

/-- The decimal form shown for a magnitude: the shortest, an exact tie going up. -/
def shownForm (units : Nat) : Form :=
  if units = 0 then ⟨0, 0⟩ else Form.shortest .up units

/-- The text shown for a number. -/
def text : Binary64 → String
  | .undefined => "NaN"
  | .infinite negative => String.ofList (signText negative ++ ['i', 'n', 'f'])
  | .finite negative units _ =>
      String.ofList (signText negative ++ (shownForm units).positional)

/-- The text written for a number where integers must look different: a finite
number without a fraction ends in `.0`. -/
def pointedText : Binary64 → String
  | .undefined => "NaN"
  | .infinite negative => String.ofList (signText negative ++ ['i', 'n', 'f'])
  | .finite negative units _ =>
      let form := shownForm units
      let ending := if 0 ≤ form.exponent then ['.', '0'] else []
      String.ofList (signText negative ++ form.positional ++ ending)

end Binary64

end BranchingStory.Decimal
