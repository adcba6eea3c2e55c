import BranchingStory.Text.Slice

/-!
# Highlight markup

A pair of brackets in the text of a story marks its inside as highlighted. Pairs do
not nest: a closing bracket pairs with the last opening bracket before it that no
other closing bracket has taken, and brackets without a partner are plain text.

Two algorithms work on the bytes of a text. `Highlighter.format` replaces the brackets
of a pair by tags in the text itself and goes on behind the closing tag; `segments`
leaves the text alone and lists its pieces. Both cut text at byte offsets, and a cut
that is not possible stops them.
-/

namespace BranchingStory.Markup

open Text

/-- The byte of an opening bracket. -/
def openByte : UInt8 := 0x5b

/-- The byte of a closing bracket. -/
def closeByte : UInt8 := 0x5d

/-- A piece of marked text. -/
inductive Segment where
  | plain (text : String)
  | highlight (text : String)
  deriving DecidableEq, Repr

namespace Segment

/-- The characters of a piece without its brackets. -/
def text : Segment → String
  | .plain text | .highlight text => text

end Segment

/-- The tags that stand before and behind a highlighted piece. -/
structure Highlighter where
  opening : String
  closing : String
  deriving DecidableEq, Repr

/-- The tags used unless others are asked for. -/
def Highlighter.standard : Highlighter := ⟨"<highlight>", "</highlight>"⟩

/-- A pass over a text that changes on the way. -/
structure Pass where
  text : String
  /-- The offset of the last opening bracket without a partner. -/
  opened : Option Nat
  /-- The offset of the byte that is read next. -/
  offset : Nat
  deriving DecidableEq, Repr

namespace Pass

/-- Whether a byte is left to read. -/
def isRunning (pass : Pass) : Bool := pass.offset < pass.text.utf8ByteSize

/-- Reads one byte. A closing bracket with a partner rebuilds the text with the tags in
place of the two brackets, and reading goes on behind the closing tag. There is no
result when the text cannot be cut at the brackets. -/
def step (tags : Highlighter) (pass : Pass) : Option Pass :=
  let next := { pass with offset := pass.offset + 1 }
  match byteAt? pass.text pass.offset with
  | none => some pass
  | some byte =>
      if byte = openByte then
        some { next with opened := some pass.offset }
      else if byte = closeByte then
        match pass.opened with
        | none => some next
        | some start => do
            let before ← slice? pass.text 0 start
            let inside ← slice? pass.text (start + 1) pass.offset
            let after ← slice? pass.text (pass.offset + 1) pass.text.utf8ByteSize
            let resume := start + tags.opening.utf8ByteSize + inside.utf8ByteSize +
              tags.closing.utf8ByteSize
            some ⟨before ++ tags.opening ++ inside ++ tags.closing ++ after, none, resume⟩
      else
        some next

/-- Reads up to a number of bytes, as long as some are left. -/
def run (tags : Highlighter) : Nat → Pass → Option Pass
  | 0, pass => some pass
  | count + 1, pass =>
      if pass.isRunning then (pass.step tags).bind (run tags count) else some pass

end Pass

namespace Highlighter

/-- The text with tags in place of paired brackets, unless a cut is not possible. Every
reading step takes one byte of the text as it was given, so its size bounds their
number. -/
def format? (tags : Highlighter) (text : String) : Option String :=
  (Pass.run tags text.utf8ByteSize ⟨text, none, 0⟩).map Pass.text

/-- The text with tags in place of paired brackets. -/
def format (tags : Highlighter) (text : String) : String := (tags.format? text).getD text

/-- One piece with its tags. -/
def renderSegment (tags : Highlighter) : Segment → String
  | .plain text => text
  | .highlight text => tags.opening ++ text ++ tags.closing

/-- The pieces one after another, the highlighted ones between tags. -/
def render (tags : Highlighter) (segments : List Segment) : String :=
  String.join (segments.map tags.renderSegment)

end Highlighter

/-- A pass over a text that collects its pieces. -/
structure Split where
  /-- The pieces found so far, in order. -/
  found : List Segment
  /-- The offset of the last opening bracket without a partner. -/
  opened : Option Nat
  /-- The offset behind the last piece. -/
  start : Nat
  deriving DecidableEq, Repr

namespace Split

/-- Reads the byte at an offset. A closing bracket with a partner adds the plain text
before the pair, unless it is empty, and the highlighted text inside. There is no
result when the text cannot be cut at the brackets. -/
def step (text : String) (split : Split) (offset : Nat) : Option Split :=
  match byteAt? text offset with
  | none => some split
  | some byte =>
      if byte = openByte then
        some { split with opened := some offset }
      else if byte = closeByte then
        match split.opened with
        | none => some split
        | some opened => do
            let before ←
              if split.start < opened then
                (slice? text split.start opened).map fun plain => [Segment.plain plain]
              else
                some []
            let inside ← slice? text (opened + 1) offset
            some ⟨split.found ++ before ++ [.highlight inside], none, offset + 1⟩
      else
        some split

/-- Adds the plain text that is left at the end, unless it is empty. -/
def finish (text : String) (split : Split) : Option (List Segment) :=
  if split.start < text.utf8ByteSize then
    (slice? text split.start text.utf8ByteSize).map fun plain =>
      split.found ++ [.plain plain]
  else
    some split.found

end Split

/-- The pieces of a text, unless a cut is not possible. -/
def segments? (text : String) : Option (List Segment) :=
  ((List.range text.utf8ByteSize).foldlM (Split.step text) ⟨[], none, 0⟩).bind
    (Split.finish text)

/-- The pieces of a text. -/
def segments (text : String) : List Segment := (segments? text).getD [.plain text]

/-- The text with the standard tags in place of paired brackets. -/
def format (text : String) : String := Highlighter.standard.format text

/-- The text without the brackets that form pairs. -/
def plainText (text : String) : String := String.join ((segments text).map Segment.text)

end BranchingStory.Markup
