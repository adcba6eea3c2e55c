import BranchingStory.Text.Printable

/-!
# Quoted text

Text is written between double quotes. A backslash introduces an escape: for the
quotes, the backslash and four control characters a letter of their own, and for any
other character that cannot be shown its code point in braces. `encode` escapes what
must not or should not stand as it is, and `decode` reads every escape, those that
`encode` never writes among them.
-/

namespace BranchingStory.Text.Quoted

/-- The letter that stands for a character after a backslash. -/
def letter? (char : Char) : Option Char :=
  match char with
  | '\x00' => some '0'
  | '\t' => some 't'
  | '\n' => some 'n'
  | '\r' => some 'r'
  | '\\' => some '\\'
  | '"' => some '"'
  | '\'' => some '\''
  | _ => none

/-- The character that a letter stands for after a backslash. -/
def ofLetter? (letter : Char) : Option Char :=
  match letter with
  | '0' => some '\x00'
  | 't' => some '\t'
  | 'n' => some '\n'
  | 'r' => some '\r'
  | '\\' => some '\\'
  | '"' => some '"'
  | '\'' => some '\''
  | _ => none

theorem ofLetter?_letter? {char letter : Char} (named : letter? char = some letter) :
    ofLetter? letter = some char := by
  unfold letter? at named
  split at named <;> first | contradiction | (cases named; rfl)

/-- Whether a character is shown as it is where it has no letter of its own. -/
def isShown (char : Char) : Bool :=
  (' ' ≤ char && char ≤ '~') || !CharacterClass.unprintable.contains char

/-- A code point between braces, in small hexadecimal digits. -/
def encodeCodePoint (char : Char) : List Char :=
  '\\' :: 'u' :: '{' :: (Nat.toDigits 16 char.toNat ++ ['}'])

/-- One character as it is written between quotes. -/
def encodeChar (char : Char) : List Char :=
  match letter? char with
  | some letter => ['\\', letter]
  | none => if isShown char then [char] else encodeCodePoint char

/-- The characters between the quotes. -/
def encodeAll (text : List Char) : List Char := text.flatMap encodeChar

/-- A text with its quotes. -/
def encode (text : String) : List Char := '"' :: (encodeAll text.toList ++ ['"'])

/-- A text with its quotes where an apostrophe needs no escape. -/
def encodeSparingApostrophe (text : String) : List Char :=
  '"' :: (text.toList.flatMap (fun char => if char = '\'' then [char] else encodeChar char)
    ++ ['"'])

/-- The value of a hexadecimal digit of either case. -/
def hexValue? (char : Char) : Option Nat :=
  if '0' ≤ char ∧ char ≤ '9' then some (char.toNat - '0'.toNat)
  else if 'a' ≤ char ∧ char ≤ 'f' then some (char.toNat - 'a'.toNat + 10)
  else if 'A' ≤ char ∧ char ≤ 'F' then some (char.toNat - 'A'.toNat + 10)
  else none

/-- The character of a code point, if the number is one. -/
def ofCodePoint? (code : Nat) : Option Char :=
  if code.isValidChar then some (Char.ofNat code) else none

/-- How far an escape has been read. -/
inductive Pending where
  /-- No escape has begun. -/
  | plain
  /-- A backslash has been read. -/
  | backslash
  /-- So many of two hexadecimal digits are still to come. -/
  | byte (missing : Nat) (value : Nat)
  /-- The opening brace of a code point is to come. -/
  | brace
  /-- So many of at most six digits of a code point have been read. -/
  | codePoint (count : Nat) (value : Nat)
  deriving DecidableEq, Repr

/-- Reads one character further. The result is what has been completed by it, if
anything, and how far the escape is read then; `none` refuses the text. -/
def Pending.step (pending : Pending) (char : Char) : Option (Option Char × Pending) :=
  match pending with
  | .plain => if char = '\\' then some (none, .backslash) else some (some char, .plain)
  | .backslash =>
      if char = 'x' then some (none, .byte 1 0)
      else if char = 'u' then some (none, .brace)
      else (ofLetter? char).map fun named => (some named, .plain)
  | .byte missing value =>
      (hexValue? char).map fun digit =>
        let value := value * 16 + digit
        match missing with
        | 0 => (some (Char.ofNat value), .plain)
        | missing + 1 => (none, .byte missing value)
  | .brace => if char = '{' then some (none, .codePoint 0 0) else none
  | .codePoint count value =>
      if char = '}' then
        if count = 0 then none
        else (ofCodePoint? value).map fun named => (some named, .plain)
      else if count = 6 then none
      else (hexValue? char).map fun digit =>
        (none, .codePoint (count + 1) (value * 16 + digit))

/-- Reads text up to the closing quote; the result is the text and what follows. -/
def decodeFrom (pending : Pending) : List Char → Option (List Char × List Char)
  | [] => none
  | char :: rest =>
      if pending = .plain ∧ char = '"' then some ([], rest)
      else do
        let (completed, pending) ← pending.step char
        let (text, rest) ← decodeFrom pending rest
        pure (completed.toList ++ text, rest)

/-- Reads the text after an opening quote. -/
def decode (input : List Char) : Option (List Char × List Char) := decodeFrom .plain input

/-- Whether some characters begin with a quote and a number of hash signs. -/
def closesRaw (hashes : Nat) (input : List Char) : Bool :=
  ('"' :: List.replicate hashes '#').isPrefixOf input

/-- Reads text without escapes up to a quote followed by the given number of hash
signs; the result is the text and what follows. -/
def decodeRaw (hashes : Nat) : List Char → Option (List Char × List Char)
  | [] => none
  | char :: rest =>
      if closesRaw hashes (char :: rest) then some ([], rest.drop hashes)
      else (decodeRaw hashes rest).map fun (text, after) => (char :: text, after)

end BranchingStory.Text.Quoted
