/-!
# Decimal numerals of whole numbers

Writing has one form: a minus sign if needed and digits without leading zeros.
Reading is wider: a sign and any number of leading zeros are allowed, and a number
outside the range of the result is refused.
-/

namespace BranchingStory.Text.Numeral

/-- The decimal digits of a natural number. -/
def digits (value : Nat) : List Char := Nat.toDigits 10 value

/-- The text of a natural number. -/
def natural (value : Nat) : String := String.ofList (digits value)

/-- The text of an integer. -/
def integer (value : Int) : String :=
  match value with
  | .ofNat magnitude => natural magnitude
  | .negSucc less => String.ofList ('-' :: digits (less + 1))

/-- The number that a run of decimal digits stands for. -/
def ofDigits (run : List Char) : Nat :=
  run.foldl (fun value digit => value * 10 + (digit.toNat - '0'.toNat)) 0

/-- Reads a run of one or more decimal digits. -/
def ofDigits? (run : List Char) : Option Nat :=
  if run.isEmpty then none
  else if run.all Char.isDigit then some (ofDigits run)
  else none

/-- Reads an index of 64 bits. A plus sign may stand in front. -/
def index? (text : String) : Option Nat :=
  let read := match text.toList with
    | '+' :: run => ofDigits? run
    | run => ofDigits? run
  read.filter (· < UInt64.size)

/-- Reads an integer. Either sign may stand in front. -/
def integer? (text : String) : Option Int :=
  match text.toList with
  | '-' :: run => (ofDigits? run).map fun magnitude => -(magnitude : Int)
  | '+' :: run => (ofDigits? run).map Int.ofNat
  | run => (ofDigits? run).map Int.ofNat

/-- Reads a signed integer of 64 bits. -/
def int64? (text : String) : Option Int64 :=
  (integer? text).bind fun value =>
    if Int64.minValue.toInt ≤ value ∧ value ≤ Int64.maxValue.toInt then
      some (Int64.ofInt value)
    else
      none

/-- Reads an unsigned number of 64 bits. A plus sign may stand in front. -/
def word? (text : String) : Option UInt64 :=
  (index? text).map UInt64.ofNat

end BranchingStory.Text.Numeral
