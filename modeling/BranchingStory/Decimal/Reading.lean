import BranchingStory.Decimal.Binary64
import BranchingStory.Text.Numeral

/-!
# Reading decimal text

A number is an optional sign followed by digits with an optional point and an
optional exponent, or by a name of infinity or of the undefined value in letters of
either case. Any amount of digits is allowed and the result is the nearest number.
-/

namespace BranchingStory.Decimal

open BranchingStory.Text

namespace Binary64

/-- Splits off a sign; no sign means positive. -/
def readSign : List Char → Bool × List Char
  | '-' :: rest => (true, rest)
  | '+' :: rest => (false, rest)
  | rest => (false, rest)

/-- Whether a word has the given letters, of either case. -/
def spells (word : List Char) (letters : String) : Bool :=
  word.map Char.toLower == letters.toList

/-- Reads what may follow the digits: nothing, or a marked power of ten. -/
def readExponent? : List Char → Option Int
  | [] => some 0
  | mark :: rest =>
      if mark = 'e' ∨ mark = 'E' then
        let (negative, run) := readSign rest
        (Numeral.ofDigits? run).map fun (size : Nat) =>
          if negative then -(size : Int) else size
      else
        none

/-- Reads digits, a point and an exponent. At least one digit must be there. -/
def readMagnitude? (negative : Bool) (input : List Char) : Option Binary64 :=
  let whole := input.takeWhile Char.isDigit
  let afterWhole := input.dropWhile Char.isDigit
  let (fraction, rest) := match afterWhole with
    | '.' :: tail => (tail.takeWhile Char.isDigit, tail.dropWhile Char.isDigit)
    | tail => ([], tail)
  if whole.isEmpty && fraction.isEmpty then
    none
  else
    (readExponent? rest).map fun exponent =>
      ofDecimal negative (Numeral.ofDigits (whole ++ fraction))
        (exponent - fraction.length)

/-- Reads a whole text as a number. -/
def read? (input : List Char) : Option Binary64 :=
  let (negative, rest) := readSign input
  if spells rest "inf" || spells rest "infinity" then some (.infinite negative)
  else if spells rest "nan" then some .undefined
  else readMagnitude? negative rest

end Binary64

end BranchingStory.Decimal
