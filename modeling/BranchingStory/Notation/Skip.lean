import BranchingStory.Notation.Scan

/-!
# Passing over data of any shape

A record may have fields that nobody asks for. Their values are passed over: anything
that could stand in a text is recognized by how it begins.
-/

namespace BranchingStory.Notation

open Decimal Text

/-- Refuses to go further down than the levels that are left. -/
def descend (levels down : Nat) : Except Fault Unit :=
  if down ≤ levels then .ok () else .error .tooDeep

/-- Passes over a character between apostrophes. -/
def skipChar : List Char → Except Fault (List Char)
  | '\\' :: rest => do
      match ← skipEscape .backslash rest with
      | '\'' :: rest => return rest
      | _ => throw .malformed
  | char :: '\'' :: rest => if char = '\'' then .error .malformed else .ok rest
  | _ => .error .malformed
where
  /-- Passes over the rest of an escape. -/
  skipEscape (pending : Quoted.Pending) : List Char → Except Fault (List Char)
    | [] => .error .malformed
    | char :: rest =>
        match pending.step char with
        | none => .error .malformed
        | some (some _, _) => .ok rest
        | some (none, pending) => skipEscape pending rest

/-- Passes over a number. What could be an integer of 64 bits is one; all else is read as
a number with a fraction. -/
def skipNumber (input : List Char) : Except Fault (List Char) :=
  let signed := input.head? == some '+' || input.head? == some '-'
  let unsigned := if signed then input.drop 1 else input
  let range := if signed then IntegerRange.int64 else IntegerRange.word64
  if (unsigned.takeWhile isIntegerChar).length < (unsigned.takeWhile isFloatChar).length then
    (float input).map Prod.snd
  else
    match integer range input with
    | .ok (_, rest) => .ok rest
    | .error _ => (float input).map Prod.snd

/-- Whether the inside of parentheses is a list of data rather than of fields: it does
not begin with a name and a colon. -/
def isTuple (inside : List Char) : Except Fault Bool :=
  match identifier inside with
  | .error _ => .ok true
  | .ok (_, rest) => do
      match ← skipGap rest with
      | next :: _ => return next != ':'
      | [] => throw .malformed

/-- A constant that is passed over as it is. -/
def skipConstant? (input : List Char) : Option (List Char) :=
  (dropWord? "true" input) <|> (dropWord? "false" input) <|> (dropWord? "None" input) <|>
    (dropText? "()" input) <|> (namedFloat? input).map Prod.snd

/-- Passes over elements up to a closing mark and over the mark. -/
def skipList (levels : Nat) (close : Char)
    (element : List Char → Except Fault (Unit × List Char)) (input : List Char) :
    Except Fault (List Char) := do
  descend levels 1
  let (_, input) ← elements close element (input.length + 1) true input
  expect close input

/-- Passes over a field with its name. -/
def skipField (levels : Nat) (value : List Char → Except Fault (List Char))
    (input : List Char) : Except Fault (Unit × List Char) := do
  descend levels 2
  let (_, input) ← identifier input
  return ((), ← value (← colon input))

/-- Passes over an entry with its name, which may be anything. -/
def skipEntry (value : List Char → Except Fault (List Char)) (input : List Char) :
    Except Fault (Unit × List Char) := do
  return ((), ← value (← colon (← value input)))

/-- Passes over what stands between parentheses, fields or data. -/
def skipParenthesized (levels : Nat) (value : List Char → Except Fault (List Char))
    (input : List Char) : Except Fault (List Char) := do
  let inside ← skipGap input
  if ← isTuple inside then
    skipList levels ')' (fun input => do return ((), ← value input)) input
  else
    skipList levels ')' (skipField levels value) input

/-- Passes over what follows the mark of a present datum. -/
def skipPresent (implicit : Bool) (value : List Char → Except Fault (List Char))
    (input : List Char) : Except Fault (List Char) := do
  match ← skipGap input with
  | '(' :: inside =>
      let input ← value (← skipGap inside)
      let (_, input) ← comma input
      expect ')' input
  | rest => if implicit then value rest else throw .malformed

/-- Passes over a datum that begins with no word. -/
def skipUnnamed (levels : Nat) (value : List Char → Except Fault (List Char)) :
    List Char → Except Fault (List Char)
  | '(' :: inside => skipParenthesized levels value inside
  | '[' :: inside => skipList levels ']' (fun input => do return ((), ← value input)) inside
  | '{' :: inside => skipList levels '}' (skipEntry value) inside
  | '"' :: rest => (text ('"' :: rest)).map Prod.snd
  | 'r' :: rest => (text ('r' :: rest)).map Prod.snd
  | '\'' :: rest => skipChar rest
  | '.' :: rest => (float ('.' :: rest)).map Prod.snd
  | next :: rest =>
      if next.isDigit || next == '+' || next == '-' then skipNumber (next :: rest)
      else throw .malformed
  | [] => throw .malformed

/-- Passes over one datum, given what passes over data one level and two levels below. -/
def skipShape (implicit : Bool) (levels : Nat) (one two : List Char → Except Fault (List Char))
    (input : List Char) : Except Fault (List Char) :=
  match skipConstant? input, dropWord? "Some" input with
  | some rest, _ => .ok rest
  | none, some rest => skipPresent implicit one rest
  | none, none =>
      match identifier input with
      | .ok (_, rest) => do
          match ← skipGap rest with
          | '(' :: inside => skipParenthesized levels two inside
          | rest => return rest
      | .error _ => skipUnnamed levels two input

/-- Passes over nothing, because nesting goes too deep. -/
def skipTooDeep : List Char → Except Fault (List Char) := fun _ => .error .tooDeep

/-- Passes over one datum. Fields and elements lie two levels below the datum they are
in: one for the list and one for what stands in it. -/
def skipDatum (implicit : Bool) : (levels : Nat) → List Char → Except Fault (List Char)
  | 0 => skipShape implicit 0 skipTooDeep skipTooDeep
  | 1 => skipShape implicit 1 (skipDatum implicit 0) skipTooDeep
  | levels + 2 =>
      skipShape implicit (levels + 2) (skipDatum implicit (levels + 1))
        (skipDatum implicit levels)

end BranchingStory.Notation
