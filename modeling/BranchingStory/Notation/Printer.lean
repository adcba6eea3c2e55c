import BranchingStory.Decimal.Positional
import BranchingStory.Notation.Shape
import BranchingStory.Text.Quoted

/-!
# Writing record notation

A datum is written without blanks and without the names of records; all its fields are
written, in the order in which it has them.
-/

namespace BranchingStory.Notation

open Text

/-- Texts with a comma between each two of them. -/
def separatedByCommas : List (List Char) → List Char
  | [] => []
  | [last] => last
  | first :: rest => first ++ ',' :: separatedByCommas rest

mutual

/-- A datum in record notation. -/
def print : Datum → List Char
  | .text text => Quoted.encode text
  | .truth truth => (if truth then "true" else "false").toList
  | .float number => number.pointedText.toList
  | .integer number => (Numeral.integer number).toList
  | .absent => "None".toList
  | .present datum => "Some(".toList ++ print datum ++ [')']
  | .list items => '[' :: (separatedByCommas (printItems items) ++ [']'])
  | .table entries => '{' :: (separatedByCommas (printEntries entries) ++ ['}'])
  | .pair first second => '(' :: (print first ++ ',' :: print second ++ [')'])
  | .record fields => '(' :: (separatedByCommas (printFields fields) ++ [')'])
  | .holding case datum => case.toList ++ '(' :: (print datum ++ [')'])
  | .having case fields =>
      case.toList ++ '(' :: (separatedByCommas (printFields fields) ++ [')'])

/-- The elements of a list. -/
def printItems : List Datum → List (List Char)
  | [] => []
  | item :: items => print item :: printItems items

/-- The entries of a table with their quoted names. -/
def printEntries : List (String × Datum) → List (List Char)
  | [] => []
  | (name, datum) :: entries =>
      (Quoted.encode name ++ ':' :: print datum) :: printEntries entries

/-- The fields of a record with their names. -/
def printFields : List (String × Datum) → List (List Char)
  | [] => []
  | (name, datum) :: fields =>
      (name.toList ++ ':' :: print datum) :: printFields fields

end

/-! What is written for each form of datum, and for each of several data. -/

section Equations

variable {name : String} {datum : Datum} {entries : List (String × Datum)}

@[simp] theorem print_text (text : String) : print (.text text) = Quoted.encode text := rfl

@[simp] theorem print_truth (truth : Bool) :
    print (.truth truth) = (if truth then "true" else "false").toList := rfl

@[simp] theorem print_float (number : Decimal.Binary64) :
    print (.float number) = number.pointedText.toList := rfl

@[simp] theorem print_integer (number : Int) :
    print (.integer number) = (Numeral.integer number).toList := rfl

@[simp] theorem print_absent : print .absent = "None".toList := rfl

@[simp] theorem print_present :
    print (.present datum) = "Some(".toList ++ print datum ++ [')'] := rfl

@[simp] theorem print_list (items : List Datum) :
    print (.list items) = '[' :: (separatedByCommas (printItems items) ++ [']']) := rfl

@[simp] theorem print_table :
    print (.table entries) = '{' :: (separatedByCommas (printEntries entries) ++ ['}']) := rfl

@[simp] theorem print_pair (first second : Datum) :
    print (.pair first second) = '(' :: (print first ++ ',' :: print second ++ [')']) := rfl

@[simp] theorem print_record :
    print (.record entries) = '(' :: (separatedByCommas (printFields entries) ++ [')']) := rfl

@[simp] theorem print_holding :
    print (.holding name datum) = name.toList ++ '(' :: (print datum ++ [')']) := rfl

@[simp] theorem print_having :
    print (.having name entries) =
      name.toList ++ '(' :: (separatedByCommas (printFields entries) ++ [')']) := rfl

@[simp] theorem printItems_nil : printItems [] = [] := rfl

@[simp] theorem printItems_cons (items : List Datum) :
    printItems (datum :: items) = print datum :: printItems items := rfl

@[simp] theorem printEntries_nil : printEntries [] = [] := rfl

@[simp] theorem printEntries_cons (entry : String × Datum) :
    printEntries (entry :: entries) =
      (Quoted.encode entry.1 ++ ':' :: print entry.2) :: printEntries entries := rfl

@[simp] theorem printFields_nil : printFields [] = [] := rfl

@[simp] theorem printFields_cons (entry : String × Datum) :
    printFields (entry :: entries) =
      (entry.1.toList ++ ':' :: print entry.2) :: printFields entries := rfl

end Equations

end BranchingStory.Notation
