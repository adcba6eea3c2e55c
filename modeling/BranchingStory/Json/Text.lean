import BranchingStory.Json.Basic
import BranchingStory.Text.Quoted

/-!
# JSON text

Writing is compact: no blanks, and only the escapes that have to be. Reading takes the
whole grammar: blanks between tokens, all escapes, surrogate pairs among them, and
nothing behind the value.
-/

namespace BranchingStory.Json

open Text

/-- One character as it is written between quotes. -/
def encodeChar (char : Char) : List Char :=
  match char with
  | '"' => ['\\', '"']
  | '\\' => ['\\', '\\']
  | '\n' => ['\\', 'n']
  | '\r' => ['\\', 'r']
  | '\t' => ['\\', 't']
  | '\x08' => ['\\', 'b']
  | '\x0c' => ['\\', 'f']
  | char =>
      if char.toNat < 0x20 then
        let hex := Nat.toDigits 16 char.toNat
        '\\' :: 'u' :: (List.replicate (4 - hex.length) '0' ++ hex)
      else
        [char]

/-- A text with its quotes. -/
def encodeString (text : String) : List Char :=
  '"' :: (text.toList.flatMap encodeChar ++ ['"'])

mutual

/-- A value as text. A string with half of a surrogate pair is written as just that. -/
def print : Json → List Char
  | .null => "null".toList
  | .bool truth => (if truth then "true" else "false").toList
  | .number literal => literal
  | .string text => encodeString text
  | .array items => '[' :: (printItems items ++ [']'])
  | .object members => '{' :: (printMembers members ++ ['}'])
  | .unpaired => "\"\\ud800\"".toList

/-- The items of an array with commas between them. -/
def printItems : List Json → List Char
  | [] => []
  | [last] => print last
  | item :: items => print item ++ ',' :: printItems items

/-- The members of an object with commas between them. -/
def printMembers : List (String × Json) → List Char
  | [] => []
  | [(name, value)] => encodeString name ++ ':' :: print value
  | (name, value) :: members =>
      encodeString name ++ ':' :: (print value ++ ',' :: printMembers members)

end

/-- The text of a value. -/
def render (json : Json) : String := String.ofList (print json)

/-- White space between tokens. -/
def isBlank (char : Char) : Bool :=
  char == ' ' || char == '\n' || char == '\t' || char == '\r'

/-- Passes over white space. -/
def skipBlanks (input : List Char) : List Char := input.dropWhile isBlank

/-- Four hexadecimal digits as a number. -/
def unit? : List Char → Option (Nat × List Char)
  | a :: b :: c :: d :: rest => do
      let high := (← Quoted.hexValue? a) * 16 + (← Quoted.hexValue? b)
      let low := (← Quoted.hexValue? c) * 16 + (← Quoted.hexValue? d)
      return (high * 256 + low, rest)
  | _ => none

/-- The character of a surrogate pair whose first half has been read, if the second half
follows. -/
def secondHalf? (first : Nat) : List Char → Option (Char × List Char)
  | '\\' :: 'u' :: rest => do
      let (second, rest) ← unit? rest
      if 0xdc00 ≤ second ∧ second < 0xe000 then
        let code := 0x10000 + (first - 0xd800) * 0x400 + (second - 0xdc00)
        return (← Quoted.ofCodePoint? code, rest)
      else
        none
  | _ => none

/-- The character of an escape behind its `u`: a unit that is a code point, or two units
that form a surrogate pair. Half of a pair is passed over and gives none. -/
def escapedUnit? (input : List Char) : Option (Option Char × List Char) := do
  let (first, rest) ← unit? input
  if 0xd800 ≤ first ∧ first < 0xdc00 then
    match secondHalf? first rest with
    | some (char, rest) => return (some char, rest)
    | none => return (none, rest)
  else
    return (Quoted.ofCodePoint? first, rest)

/-- The character that a letter behind a backslash stands for. -/
def ofLetter? (letter : Char) : Option Char :=
  match letter with
  | '"' => some '"'
  | '\\' => some '\\'
  | '/' => some '/'
  | 'b' => some '\x08'
  | 'f' => some '\x0c'
  | 'n' => some '\n'
  | 'r' => some '\r'
  | 't' => some '\t'
  | _ => none

/-- A character in front of others, unless one of them is missing. -/
def consChar? (char : Option Char) (chars : Option (List Char)) : Option (List Char) := do
  return (← char) :: (← chars)

/-- Reads text up to the closing quote. There is no text if half of a surrogate pair
stands in it, but the form of the rest still counts. The limit is one more than the
characters there can be. -/
def readChars : (limit : Nat) → List Char → Option (Option (List Char) × List Char)
  | 0, _ => none
  | _ + 1, [] => none
  | _ + 1, '"' :: rest => some (some [], rest)
  | limit + 1, '\\' :: 'u' :: rest => do
      let (char, rest) ← escapedUnit? rest
      let (chars, rest) ← readChars limit rest
      return (consChar? char chars, rest)
  | limit + 1, '\\' :: letter :: rest => do
      let char ← ofLetter? letter
      let (chars, rest) ← readChars limit rest
      return (consChar? (some char) chars, rest)
  | limit + 1, char :: rest =>
      if char = '\\' ∨ char.toNat < 0x20 then none
      else do
        let (chars, rest) ← readChars limit rest
        return (consChar? (some char) chars, rest)

/-- Reads the text behind an opening quote. -/
def readString (input : List Char) : Option (Option String × List Char) :=
  (readChars (input.length + 1) input).map fun (chars, rest) =>
    (chars.map String.ofList, rest)

/-- Names with their values as an object. -/
def ofMembers (members : List (Option String × Json)) : Json :=
  let named := members.mapM fun (name, value) => name.map fun name => (name, value)
  (named.map Json.object).getD .unpaired

/-- Reads digits, of which there has to be one. -/
def readDigits (input : List Char) : Option (List Char × List Char) :=
  let run := input.takeWhile Char.isDigit
  if run.isEmpty then none else some (run, input.dropWhile Char.isDigit)

/-- Reads the digits before the point, which do not begin with a needless zero. -/
def readWhole (input : List Char) : Option (List Char × List Char) :=
  match input with
  | '0' :: rest => some (['0'], rest)
  | input => readDigits input

/-- Reads the point and the digits behind it, if a point is there. -/
def readFraction (input : List Char) : Option (List Char × List Char) :=
  match input with
  | '.' :: rest => (readDigits rest).map fun (run, rest) => ('.' :: run, rest)
  | rest => some ([], rest)

/-- Reads a marked exponent, if the mark is there. -/
def readExponent (input : List Char) : Option (List Char × List Char) :=
  match input with
  | mark :: rest =>
      if mark = 'e' ∨ mark = 'E' then
        match rest with
        | '-' :: rest => (readDigits rest).map fun (run, rest) => (mark :: '-' :: run, rest)
        | '+' :: rest => (readDigits rest).map fun (run, rest) => (mark :: '+' :: run, rest)
        | rest => (readDigits rest).map fun (run, rest) => (mark :: run, rest)
      else
        some ([], mark :: rest)
  | [] => some ([], [])

/-- Reads the literal of a number. -/
def readNumber (input : List Char) : Option (List Char × List Char) := do
  let (sign, input) := match input with
    | '-' :: rest => (['-'], rest)
    | rest => ([], rest)
  let (whole, input) ← readWhole input
  let (fraction, input) ← readFraction input
  let (exponent, input) ← readExponent input
  return (sign ++ whole ++ fraction ++ exponent, input)

/-- Passes over a word at the front. -/
def readWord (word : String) (value : Json) (input : List Char) : Option (Json × List Char) :=
  if word.toList.isPrefixOf input then some (value, input.drop word.length) else none

mutual

/-- Reads a value. The limit is one that reading cannot use up: every call takes a
character or hands on to one that does. -/
def readValue : (limit : Nat) → List Char → Option (Json × List Char)
  | 0, _ => none
  | limit + 1, input =>
      match skipBlanks input with
      | '"' :: rest =>
          (readString rest).map fun (text, rest) => ((text.map .string).getD .unpaired, rest)
      | '[' :: rest =>
          match skipBlanks rest with
          | ']' :: rest => some (.array [], rest)
          | rest => (readItems limit rest).map fun (items, rest) => (.array items, rest)
      | '{' :: rest =>
          match skipBlanks rest with
          | '}' :: rest => some (.object [], rest)
          | rest =>
              (readMembers limit rest).map fun (members, rest) => (ofMembers members, rest)
      | 'n' :: rest => readWord "ull" .null rest
      | 't' :: rest => readWord "rue" (.bool true) rest
      | 'f' :: rest => readWord "alse" (.bool false) rest
      | rest => (readNumber rest).map fun (literal, rest) => (.number literal, rest)

/-- Reads items up to the closing bracket. -/
def readItems : (limit : Nat) → List Char → Option (List Json × List Char)
  | 0, _ => none
  | limit + 1, input => do
      let (item, input) ← readValue limit input
      match skipBlanks input with
      | ',' :: rest =>
          let (items, rest) ← readItems limit rest
          return (item :: items, rest)
      | ']' :: rest => return ([item], rest)
      | _ => none

/-- Reads members up to the closing brace. -/
def readMembers :
    (limit : Nat) → List Char → Option (List (Option String × Json) × List Char)
  | 0, _ => none
  | limit + 1, input =>
      match skipBlanks input with
      | '"' :: rest => do
          let (name, input) ← readString rest
          match skipBlanks input with
          | ':' :: rest =>
              let (value, input) ← readValue limit rest
              match skipBlanks input with
              | ',' :: rest =>
                  let (members, rest) ← readMembers limit rest
                  return ((name, value) :: members, rest)
              | '}' :: rest => return ([(name, value)], rest)
              | _ => none
          | _ => none
      | _ => none

end

/-- Reads a whole text as one value. -/
def parse? (text : String) : Option Json := do
  let input := text.toList
  let (value, rest) ← readValue (2 * input.length + 1) input
  if (skipBlanks rest).isEmpty then some value else none

end BranchingStory.Json
