import BranchingStory.Decimal.Reading
import BranchingStory.Notation.Fault
import BranchingStory.Notation.Shape
import BranchingStory.Text.Quoted

/-!
# The small parts of record notation

Every function reads one part at the front of some characters and gives what it read
and the characters behind it. Between parts there may be gaps: white space, comments to
the end of a line, and comments between slashes with stars, which nest.
-/

namespace BranchingStory.Notation

open Decimal Text

/-- White space of the notation: blank, tab, line feed and carriage return. -/
def isBlank (char : Char) : Bool :=
  char == ' ' || char == '\t' || char == '\n' || char == '\r'

/-- What an integer consists of behind its sign and base. -/
def isIntegerChar (char : Char) : Bool := (Quoted.hexValue? char).isSome || char == '_'

/-- What the text of a number with a fraction consists of. -/
def isFloatChar (char : Char) : Bool :=
  char.isDigit || char == 'e' || char == 'E' || char == '.' || char == '+' || char == '-'

/-- Where in a gap reading stands. -/
inductive Gap where
  | between
  /-- In a comment that the line ends. -/
  | line
  /-- In a comment with so many more comments around it. -/
  | block (around : Nat)
  deriving DecidableEq, Repr

/-- Passes over a gap, from somewhere inside it. A comment that does not end and a slash
that begins no comment are refused. -/
def skipGapFrom : Gap → List Char → Except Fault (List Char)
  | .between, [] => .ok []
  | .between, '/' :: '/' :: rest => skipGapFrom .line rest
  | .between, '/' :: '*' :: rest => skipGapFrom (.block 0) rest
  | .between, char :: rest =>
      if isBlank char then skipGapFrom .between rest
      else if char = '/' then .error .malformed
      else .ok (char :: rest)
  | .line, [] => .ok []
  | .line, char :: rest =>
      if char = '\n' then skipGapFrom .between rest else skipGapFrom .line rest
  | .block _, [] => .error .malformed
  | .block around, '/' :: '*' :: rest => skipGapFrom (.block (around + 1)) rest
  | .block around, '*' :: '/' :: rest =>
      match around with
      | 0 => skipGapFrom .between rest
      | around + 1 => skipGapFrom (.block around) rest
  | .block around, _ :: rest => skipGapFrom (.block around) rest

/-- Passes over a gap. -/
def skipGap (input : List Char) : Except Fault (List Char) := skipGapFrom .between input

/-- Passes over one character, which has to be there. -/
def expect (char : Char) : List Char → Except Fault (List Char)
  | next :: rest => if next = char then .ok rest else .error .malformed
  | [] => .error .malformed

/-- Passes over a text at the front, if it is there. -/
def dropText? (text : String) (input : List Char) : Option (List Char) :=
  if text.toList.isPrefixOf input then some (input.drop text.length) else none

/-- Passes over a word at the front that no character of a word follows. -/
def dropWord? (word : String) (input : List Char) : Option (List Char) :=
  (dropText? word input).filter fun rest => !rest.head?.any isWordChar

/-- Passes over a gap and a comma with the gap behind it; says whether there was one. -/
def comma (input : List Char) : Except Fault (Bool × List Char) := do
  match ← skipGap input with
  | ',' :: rest => return (true, ← skipGap rest)
  | rest => return (false, rest)

/-- Reads an identifier: a word, or a raw word behind `r#`. A word that only as a raw
word would be complete is refused, and so is the beginning of raw text. -/
def identifier : List Char → Except Fault (String × List Char)
  | ['r'] => .error .malformed
  | 'r' :: '"' :: _ => .error .malformed
  | 'r' :: '#' :: rest =>
      let raw := rest.takeWhile isRawChar
      if raw.isEmpty then .error .malformed
      else .ok (String.ofList raw, rest.dropWhile isRawChar)
  | first :: rest =>
      let word := (first :: rest).takeWhile isWordChar
      let after := (first :: rest).dropWhile isWordChar
      if isWordStart first && !after.head?.any isRawChar then .ok (String.ofList word, after)
      else .error .malformed
  | [] => .error .malformed

/-- The base of an integer and the characters behind its mark. -/
def integerBase : List Char → Nat × List Char
  | '0' :: 'x' :: rest => (16, rest)
  | '0' :: 'b' :: rest => (2, rest)
  | '0' :: 'o' :: rest => (8, rest)
  | rest => (10, rest)

/-- Adds digits to a number read so far, away from zero in the direction of a sign.
Underscores are passed over. Whatever goes out of range first is reported, before a
digit that is too large for the base. -/
def addDigits (range : IntegerRange) (sign : Int) (base : Nat) :
    List Char → Int → Except Fault Int
  | [], number => .ok number
  | char :: rest, number =>
      if char = '_' then addDigits range sign base rest number
      else if !range.contains (number * base) then .error .outOfBounds
      else match Quoted.hexValue? char with
        | none => .error .malformed
        | some digit =>
            if base ≤ digit then .error .malformed
            else
              let number := number * base + sign * digit
              if range.contains number then addDigits range sign base rest number
              else .error .outOfBounds

/-- Reads an integer behind its sign. -/
def unsignedInteger (range : IntegerRange) (sign : Int) (input : List Char) :
    Except Fault (Int × List Char) := do
  let (base, input) := integerBase input
  let run := input.takeWhile isIntegerChar
  if run.isEmpty || run.head? == some '_' then
    throw .malformed
  let number ← addDigits range sign base run 0
  return (number, input.dropWhile isIntegerChar)

/-- Reads an integer. Only signed ranges allow a sign. -/
def integer (range : IntegerRange) (input : List Char) : Except Fault (Int × List Char) :=
  match range.signed, input with
  | true, '+' :: rest => unsignedInteger range 1 rest
  | true, '-' :: rest => unsignedInteger range (-1) rest
  | _, rest => unsignedInteger range 1 rest

/-- The names of the numbers that have no digits. Each may have a sign, but the undefined
value is the same with any. -/
def namedFloats : List (String × Binary64) :=
  [("inf", .infinite false), ("+inf", .infinite false), ("-inf", .infinite true),
    ("NaN", .undefined), ("+NaN", .undefined), ("-NaN", .undefined)]

/-- Reads a number by its name. -/
def namedFloat? (input : List Char) : Option (Binary64 × List Char) :=
  namedFloats.findSome? fun (name, number) =>
    (dropWord? name input).map fun rest => (number, rest)

/-- Reads a number: a name, or decimal text. -/
def float (input : List Char) : Except Fault (Binary64 × List Char) :=
  match namedFloat? input with
  | some read => .ok read
  | none =>
      match Binary64.read? (input.takeWhile isFloatChar) with
      | some number => .ok (number, input.dropWhile isFloatChar)
      | none => .error .malformed

/-- Reads a truth value. -/
def truth (input : List Char) : Except Fault (Bool × List Char) :=
  match dropText? "true" input, dropText? "false" input with
  | some rest, _ => .ok (true, rest)
  | _, some rest => .ok (false, rest)
  | none, none => .error .malformed

/-- Reads text between quotes, or raw text behind `r` and hash signs. -/
def text (input : List Char) : Except Fault (String × List Char) :=
  let read := match input with
    | '"' :: rest => Quoted.decode rest
    | 'r' :: rest =>
        match rest.dropWhile (· == '#') with
        | '"' :: raw => Quoted.decodeRaw (rest.takeWhile (· == '#')).length raw
        | _ => none
    | _ => none
  match read with
  | some (chars, rest) => .ok (String.ofList chars, rest)
  | none => .error .malformed

/-- Whether another element comes before the closing mark. One comes only at the start
and behind a comma; without either the closing mark has to follow. -/
def hasElement (close : Char) (separated : Bool) (input : List Char) :
    Except Fault (Bool × List Char) := do
  match ← skipGap input with
  | [] => throw .malformed
  | next :: rest =>
      if next = close then return (false, next :: rest)
      else if separated then return (true, next :: rest)
      else throw .malformed

/-- Reads elements with commas between them up to a closing mark, which is not passed
over. The limit is one more than the elements there can be. -/
def elements {α : Type} (close : Char) (element : List Char → Except Fault (α × List Char)) :
    (limit : Nat) → (separated : Bool) → List Char → Except Fault (List α × List Char)
  | 0, _, _ => .error .malformed
  | limit + 1, separated, input => do
      let (more, input) ← hasElement close separated input
      if more then
        let (first, input) ← element input
        let (separated, input) ← comma input
        let (others, input) ← elements close element limit separated input
        return (first :: others, input)
      else
        return ([], input)

/-- Passes over a colon with the gaps around it. -/
def colon (input : List Char) : Except Fault (List Char) := do
  skipGap (← expect ':' (← skipGap input))

/-- The extensions that a text may switch on. Only one of them changes how the records of
a story are read. -/
def extensions : List String :=
  ["unwrap_newtypes", "implicit_some", "unwrap_variant_newtypes"]

/-- Reads the names of extensions up to the closing parenthesis; says whether a bare
value may stand for a present one. -/
def extensionNames : (limit : Nat) → List Char → Except Fault (Bool × List Char)
  | 0, _ => .error .malformed
  | limit + 1, input => do
      let (name, input) ← identifier input
      if !extensions.contains name then
        throw .malformed
      let (separated, input) ← comma input
      if separated && input.head?.any isWordChar then
        let (others, input) ← extensionNames limit input
        return (name == "implicit_some" || others, input)
      else
        return (name == "implicit_some", ← skipGap (← expect ')' input))

/-- Reads the attributes at the start of a text; says whether a bare value may stand for
a present one. -/
def attributes : (limit : Nat) → List Char → Except Fault (Bool × List Char)
  | 0, _ => .error .malformed
  | limit + 1, '#' :: rest => do
      let input ← skipGap (← expect '!' (← skipGap rest))
      let input ← skipGap (← expect '[' input)
      match dropText? "enable" input with
      | none => throw .malformed
      | some input =>
          let input ← skipGap (← expect '(' (← skipGap input))
          let (implicit, input) ← extensionNames (input.length + 1) input
          let input ← skipGap (← expect ']' input)
          let (others, input) ← attributes limit input
          return (implicit || others, input)
  | _ + 1, input => .ok (false, input)

end BranchingStory.Notation
