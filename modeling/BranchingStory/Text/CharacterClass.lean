/-!
# Classes of characters, and what they separate

A class is a set of code points given by the points at which membership changes: the
list starts outside the class, and every entry is the first code point on the other
side. A character belongs when an odd number of changes lie at or before it.

White space separates words: a word is a run of characters without it, as long as it can
be. A text read line by line is cut behind every line end; what stands behind the last one
is a line only if it is not empty. Written lines all have their line end.
-/

namespace BranchingStory.Text

/-- A set of characters, as the increasing code points at which membership changes. -/
structure CharacterClass where
  changes : List Nat

namespace CharacterClass

/-- Whether a character belongs to the class. -/
def contains (chars : CharacterClass) (char : Char) : Bool :=
  chars.changes.countP (· ≤ char.toNat) % 2 == 1

/-- White space: the characters that separate words. -/
def whiteSpace : CharacterClass where
  changes := [
    0x9, 0xe, 0x20, 0x21, 0x85, 0x86, 0xa0, 0xa1, 0x1680, 0x1681, 0x2000, 0x200b,
    0x2028, 0x202a, 0x202f, 0x2030, 0x205f, 0x2060, 0x3000, 0x3001]

end CharacterClass

/-! ## Words -/

/-- The words of some characters, the first of them continuing a run read so far. -/
def wordsAfter (run : List Char) : List Char → List String
  | [] => if run.isEmpty then [] else [String.ofList run]
  | char :: rest =>
      if CharacterClass.whiteSpace.contains char then
        if run.isEmpty then wordsAfter [] rest
        else String.ofList run :: wordsAfter [] rest
      else
        wordsAfter (run ++ [char]) rest

/-- The words of a text, in order. -/
def words (text : String) : List String := wordsAfter [] text.toList

/-! ## Lines -/

/-- The lines of some characters, the first of them continuing a run read so far. -/
def linesAfter (run : List Char) : List Char → List String
  | [] => if run.isEmpty then [] else [String.ofList run]
  | char :: rest =>
      if char = '\n' then String.ofList run :: linesAfter [] rest
      else linesAfter (run ++ [char]) rest

/-- The lines of a text, without their line ends. -/
def lines (text : String) : List String := linesAfter [] text.toList

/-- Lines with their line ends. -/
def unlines (lines : List String) : String := String.join (lines.map (· ++ "\n"))

end BranchingStory.Text
