import BranchingStory.Decimal.Shortest
import BranchingStory.Text.Numeral

/-!
# Numbers in JSON

A literal without a fraction and an exponent that fits 64 bits is an integer, and every
other one a number with a fraction. Such a number is read by one rounded scaling: the
digits that fit 64 bits form a whole number, which is multiplied or divided by a power
of ten. That is quick but not always the nearest number; a literal of many digits may
be read as a neighbour of the number that was written.
-/

namespace BranchingStory.Json

open Decimal Text

/-- What a literal is worth. -/
inductive Numeric where
  | integer (number : Int)
  | float (number : Binary64)
  deriving DecidableEq

/-- The greatest whole number that collected digits may form. -/
def greatestWord : Nat := UInt64.size - 1

/-- Digits collected into a whole number, with the power of ten that is left over. -/
structure Collected where
  significand : Nat
  exponent : Int
  /-- Whether digits have been passed over because they no longer fit. -/
  full : Bool
  deriving DecidableEq, Repr

namespace Collected

/-- Collects a digit before the point. One that does not fit and all behind it only
count as powers of ten. -/
def addWhole (collected : Collected) (digit : Char) : Collected :=
  let grown := collected.significand * 10 + (digit.toNat - '0'.toNat)
  if collected.full || greatestWord < grown then
    { collected with exponent := collected.exponent + 1, full := true }
  else
    { collected with significand := grown }

/-- Collects a digit behind the point. One that does not fit and all behind it are
passed over. -/
def addFraction (collected : Collected) (digit : Char) : Collected :=
  let grown := collected.significand * 10 + (digit.toNat - '0'.toNat)
  if collected.full || greatestWord < grown then
    { collected with full := true }
  else
    { collected with significand := grown, exponent := collected.exponent - 1 }

end Collected

/-- The number ten to a power of at most 308. -/
def powerOfTen (exponent : Nat) : Binary64 := Binary64.ofDecimal false 1 exponent

/-- A number times a power of ten, rounded at each step: powers below the range are taken
off in steps of 308. There is no result when the product is infinite. -/
def scaled : (limit : Nat) → Binary64 → Int → Option Binary64
  | 0, value, _ => some value
  | limit + 1, value, exponent =>
      if exponent < -308 then
        if value.isZero then some value
        else scaled limit (value.scaleDown (powerOfTen 308)) (exponent + 308)
      else if exponent < 0 then
        some (value.scaleDown (powerOfTen (-exponent).toNat))
      else if exponent ≤ 308 then
        let product := value.scaleUp (powerOfTen exponent.toNat)
        if product.isFinite then some product else none
      else if value.isZero then some value
      else none

/-- The number of collected digits. A number of 64 bits is zero after three steps of 308,
which bounds their number. -/
def Collected.number (negative : Bool) (collected : Collected) : Option Binary64 :=
  (scaled 4 (Binary64.ofNat collected.significand) collected.exponent).map fun number =>
    if negative then number.neg else number

/-- The number of collected digits with a marked exponent. An exponent beyond 32 bits
settles the number by itself. -/
def Collected.numberTimes (negative : Bool) (collected : Collected) (exponentNegative : Bool)
    (exponent : Nat) : Option Binary64 :=
  if exponent < UInt32.size / 2 then
    let exponent : Int := if exponentNegative then -(exponent : Int) else exponent
    { collected with exponent := collected.exponent + exponent }.number negative
  else if collected.significand ≠ 0 ∧ ¬exponentNegative then none
  else some (Binary64.zero negative)

/-- What a literal without fraction and exponent is worth. -/
def wholeNumeric (negative : Bool) (collected : Collected) : Option Numeric :=
  if collected.full then (collected.number negative).map .float
  else if !negative then some (.integer collected.significand)
  else if collected.significand = 0 ∨ UInt64.size / 2 < collected.significand then
    some (.float (Binary64.ofNat collected.significand).neg)
  else
    some (.integer (-(collected.significand : Int)))

/-- What a literal is worth, unless it is too large. -/
def numeric? (literal : List Char) : Option Numeric :=
  let negative := literal.head? == some '-'
  let unsigned := if negative then literal.drop 1 else literal
  let whole := (unsigned.takeWhile Char.isDigit).foldl Collected.addWhole ⟨0, 0, false⟩
  match unsigned.dropWhile Char.isDigit with
  | [] => wholeNumeric negative whole
  | '.' :: tail =>
      let start := { whole with full := false }
      let collected := (tail.takeWhile Char.isDigit).foldl Collected.addFraction start
      withExponent negative collected (tail.dropWhile Char.isDigit)
  | tail => withExponent negative whole tail
where
  /-- Applies the exponent that may follow collected digits. -/
  withExponent (negative : Bool) (collected : Collected) : List Char → Option Numeric
    | [] => (collected.number negative).map .float
    | _ :: '-' :: run =>
        (collected.numberTimes negative true (Numeral.ofDigits run)).map .float
    | _ :: '+' :: run =>
        (collected.numberTimes negative false (Numeral.ofDigits run)).map .float
    | _ :: run =>
        (collected.numberTimes negative false (Numeral.ofDigits run)).map .float

/-- The literal of an integer. -/
def integerLiteral (number : Int) : List Char := (Numeral.integer number).toList

/-- The literal of a finite number: its shortest decimal, an exact tie going to the even
digit. From a hundred-thousandth up to sixteen digits it is positional, with a digit on
either side of the point; outside it has one digit before the point and an exponent. -/
def finiteLiteral (negative : Bool) (units : Nat) : List Char :=
  let form : Form := if units = 0 then ⟨0, 0⟩ else Form.shortest .even units
  let digits := Numeral.digits form.digits
  let count : Int := digits.length
  let point := count + form.exponent
  let magnitude :=
    if 0 ≤ form.exponent ∧ point ≤ 16 then
      digits ++ List.replicate form.exponent.toNat '0' ++ ['.', '0']
    else if 0 < point ∧ point ≤ 16 then
      digits.take point.toNat ++ '.' :: digits.drop point.toNat
    else if -5 < point ∧ point ≤ 0 then
      '0' :: '.' :: (List.replicate (-point).toNat '0' ++ digits)
    else
      let fraction := if digits.length = 1 then [] else '.' :: digits.drop 1
      digits.take 1 ++ fraction ++ 'e' :: integerLiteral (point - 1)
  if negative then '-' :: magnitude else magnitude

/-- The literal of a number; one that is not finite has none. -/
def floatLiteral? : Binary64 → Option (List Char)
  | .finite negative units _ => some (finiteLiteral negative units)
  | _ => none

end BranchingStory.Json
