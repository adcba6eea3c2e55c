import BranchingStory.Markup

/-!
# Reading markup character by character

A scan reads a text from left to right and keeps the pieces found so far, the plain text
behind them and, once an opening bracket without a partner is met, what follows the last
one.  It needs neither bytes nor offsets, and nothing in it can fail; it says what the
passes over the bytes of a text are to find.
-/

namespace BranchingStory.Markup

/-- The text that a piece stands for, with its brackets. -/
def Segment.source : Segment → String
  | .plain text => text
  | .highlight text => "[" ++ (text ++ "]")

/-- The text that pieces stand for. -/
def source (pieces : List Segment) : String := String.join (pieces.map Segment.source)

/-- Plain text as a piece, unless it is empty. -/
def plainPiece (text : String) : List Segment := if text = "" then [] else [.plain text]

@[simp] theorem source_nil : source [] = "" := rfl

@[simp] theorem source_append (left right : List Segment) :
    source (left ++ right) = source left ++ source right := by
  simp only [source, List.map_append, String.join_append]

@[simp] theorem source_singleton (piece : Segment) : source [piece] = piece.source := by
  simp only [source, List.map_cons, List.map_nil, String.join_cons, String.join_nil,
    String.append_empty]

@[simp] theorem source_cons (piece : Segment) (pieces : List Segment) :
    source (piece :: pieces) = piece.source ++ source pieces := by
  simp only [source, List.map_cons, String.join_cons]

@[simp] theorem source_plainPiece (text : String) : source (plainPiece text) = text := by
  unfold plainPiece
  split
  · next nothing => rw [source_nil, nothing]
  · simp only [source_singleton, Segment.source]

namespace Highlighter

variable (tags : Highlighter)

@[simp] theorem render_nil : tags.render [] = "" := rfl

@[simp] theorem render_append (left right : List Segment) :
    tags.render (left ++ right) = tags.render left ++ tags.render right := by
  simp only [render, List.map_append, String.join_append]

@[simp] theorem render_singleton (piece : Segment) :
    tags.render [piece] = tags.renderSegment piece := by
  simp only [render, List.map_cons, List.map_nil, String.join_cons, String.join_nil,
    String.append_empty]

@[simp] theorem render_plainPiece (text : String) : tags.render (plainPiece text) = text := by
  unfold plainPiece
  split
  · next nothing => rw [render_nil, nothing]
  · simp only [render_singleton, renderSegment]

end Highlighter

/-- What is known of a text after some of its characters. -/
structure Scan where
  /-- The pieces found so far, in order. -/
  found : List Segment
  /-- The text behind the last piece, up to the last opening bracket without a partner. -/
  plain : String
  /-- What follows that bracket, if there is one. -/
  inside : Option String
  deriving DecidableEq, Repr

namespace Scan

/-- Nothing has been read. -/
def start : Scan := ⟨[], "", none⟩

/-- All text behind the last piece. -/
def pending (scan : Scan) : String :=
  match scan.inside with
  | none => scan.plain
  | some inside => scan.plain ++ ("[" ++ inside)

/-- Adds text that holds no bracket of a pair. -/
def add (scan : Scan) (text : String) : Scan :=
  match scan.inside with
  | none => { scan with plain := scan.plain ++ text }
  | some inside => { scan with inside := some (inside ++ text) }

/-- Reads an opening bracket, which leaves the one before it without a partner. -/
def openPair (scan : Scan) : Scan := { scan with plain := scan.pending, inside := some "" }

/-- Reads a closing bracket, which may find no partner. -/
def closePair (scan : Scan) : Scan :=
  match scan.inside with
  | none => scan.add "]"
  | some inside => ⟨scan.found ++ plainPiece scan.plain ++ [.highlight inside], "", none⟩

/-- Reads a character. -/
def feed (scan : Scan) (c : Char) : Scan :=
  if c = '[' then scan.openPair
  else if c = ']' then scan.closePair
  else scan.add (String.singleton c)

/-- The pieces once the text is at its end. -/
def finish (scan : Scan) : List Segment := scan.found ++ plainPiece scan.pending

/-- The offset of the last opening bracket without a partner, where the text behind the
last piece starts after some text. -/
def opened (before : String) (scan : Scan) : Option Nat :=
  scan.inside.map fun _ => (before ++ scan.plain).utf8ByteSize

/-- The text that has been read. -/
def read (scan : Scan) : String := source scan.found ++ scan.pending

/-- A character that is only added to the text at hand: no opening bracket, and no closing
one that has a partner. -/
def Keeps (scan : Scan) (c : Char) : Prop := c ≠ '[' ∧ (c = ']' → scan.inside = none)

/-- A character is an opening bracket, closes a pair or is kept. -/
theorem cases_of_char (scan : Scan) (c : Char) :
    c = '[' ∨ (c = ']' ∧ ∃ inside, scan.inside = some inside) ∨ scan.Keeps c := by
  by_cases isOpening : c = '['
  · exact .inl isOpening
  · right
    cases opened : scan.inside with
    | none => exact .inr ⟨isOpening, fun _ => opened⟩
    | some inside =>
        by_cases isClosing : c = ']'
        · exact .inl ⟨isClosing, inside, rfl⟩
        · exact .inr ⟨isOpening, fun same => absurd same isClosing⟩

variable {scan : Scan} {c : Char}

theorem feed_of_keeps (keeps : scan.Keeps c) :
    scan.feed c = scan.add (String.singleton c) := by
  obtain ⟨isNotOpening, unpaired⟩ := keeps
  unfold feed
  rw [if_neg isNotOpening]
  split
  · next isClosing =>
      subst isClosing
      simp only [closePair, unpaired rfl]
      rfl
  · rfl

theorem feed_closing {inside : String} (opened : scan.inside = some inside) :
    scan.feed ']' =
      ⟨scan.found ++ plainPiece scan.plain ++ [.highlight inside], "", none⟩ := by
  have closed : scan.feed ']' = scan.closePair := rfl
  rw [closed, closePair, opened]

theorem pending_of_opened {inside : String} (opened : scan.inside = some inside) :
    scan.pending = scan.plain ++ ("[" ++ inside) := by
  rw [pending, opened]

@[simp] theorem add_found (scan : Scan) (text : String) :
    (scan.add text).found = scan.found := by
  cases opened : scan.inside <;> simp only [add, opened]

@[simp] theorem add_pending (scan : Scan) (text : String) :
    (scan.add text).pending = scan.pending ++ text := by
  cases opened : scan.inside with
  | none => simp only [add, pending, opened]
  | some inside => simp only [add, pending, opened, String.append_assoc]

@[simp] theorem openPair_pending (scan : Scan) :
    scan.openPair.pending = scan.pending ++ "[" := by
  simp only [openPair, pending, String.append_empty]

theorem opened_of_none (before : String) (unopened : scan.inside = none) :
    scan.opened before = none := by
  rw [opened, unopened, Option.map_none]

theorem opened_of_some (before : String) {inside : String}
    (isOpened : scan.inside = some inside) :
    scan.opened before = some (before ++ scan.plain).utf8ByteSize := by
  rw [opened, isOpened, Option.map_some]

@[simp] theorem add_opened (before : String) (scan : Scan) (text : String) :
    (scan.add text).opened before = scan.opened before := by
  cases isOpened : scan.inside <;> simp only [add, opened, isOpened, Option.map]

@[simp] theorem openPair_opened (before : String) (scan : Scan) :
    scan.openPair.opened before = some (before ++ scan.pending).utf8ByteSize := rfl

/-- Reading a character adds it to the text that has been read. -/
theorem read_feed (scan : Scan) (c : Char) :
    (scan.feed c).read = scan.read ++ String.singleton c := by
  rcases cases_of_char scan c with rfl | ⟨rfl, inside, opened⟩ | keeps
  · have opening : scan.feed '[' = scan.openPair := rfl
    rw [opening]
    simp only [read, openPair_pending, String.append_assoc]
    rfl
  · unfold read
    rw [feed_closing opened, pending_of_opened opened]
    simp only [source_append, source_plainPiece, source_singleton, Segment.source, pending,
      String.append_empty, String.append_assoc]
    rfl
  · rw [feed_of_keeps keeps]
    simp only [read, add_found, add_pending, String.append_assoc]

theorem read_foldl (scan : Scan) (chars : List Char) :
    (chars.foldl feed scan).read = scan.read ++ String.ofList chars := by
  induction chars generalizing scan with
  | nil => exact String.append_empty.symm
  | cons c chars ih =>
      rw [List.foldl_cons, ih, read_feed, String.ofList_cons, String.append_assoc]

/-- The scan of a whole text. -/
def ofText (text : String) : Scan := text.toList.foldl feed start

/-- Nothing of a text is lost. -/
theorem read_ofText (text : String) : (ofText text).read = text := by
  rw [ofText, read_foldl, String.ofList_toList]
  exact String.empty_append

theorem render_finish (tags : Highlighter) (scan : Scan) :
    tags.render scan.finish = tags.render scan.found ++ scan.pending := by
  simp only [finish, Highlighter.render_append, Highlighter.render_plainPiece]

end Scan

end BranchingStory.Markup
