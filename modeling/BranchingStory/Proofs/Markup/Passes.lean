import BranchingStory.Proofs.Markup.Scan
import BranchingStory.Proofs.Text.Bytes

/-!
# Both passes follow the scan

After every character, what the pass that rebuilds the text and the pass that splits it
have at hand is determined by the scan: the former has rendered the pieces found so far,
the latter still counts the text that they stand for.  Behind that, both have the same
text.  So neither pass is ever stopped, and rendering the pieces of a text gives what
rebuilding it gives.
-/

namespace BranchingStory.Markup

open Text

variable {before after text : String} {c : Char} {count offset : Nat}

/-! ## Bytes that are passed over -/

/-- A byte that neither opens a pair nor closes the one that is open. -/
def Passed (opened : Option Nat) (byte : UInt8) : Prop :=
  byte ≠ openByte ∧ (byte = closeByte → opened = none)

/-- All bytes of a kept character are passed over. -/
theorem passed_of_keeps {scan : Scan} {opened : Option Nat} (keeps : scan.Keeps c)
    (agree : scan.inside = none → opened = none) (inside : count < c.utf8Size) :
    ∃ byte, byteAt? (before ++ (String.singleton c ++ after)) (before.utf8ByteSize + count) =
      some byte ∧ Passed opened byte := by
  obtain ⟨isNotOpening, unpaired⟩ := keeps
  obtain ⟨byte, member, found⟩ := @byteAt?_char before after c count inside
  refine ⟨byte, found, ?_, ?_⟩
  · exact ne_of_mem_utf8EncodeChar (by decide : '['.utf8Size = 1) isNotOpening member
  · intro isCloseByte
    by_cases isClosing : c = ']'
    · exact agree (unpaired isClosing)
    · exact absurd isCloseByte
        (ne_of_mem_utf8EncodeChar (by decide : ']'.utf8Size = 1) isClosing member)

theorem byteAt?_opening :
    byteAt? (before ++ (String.singleton '[' ++ after)) before.utf8ByteSize =
      some openByte :=
  byteAt?_of_size_one (by decide : '['.utf8Size = 1)

theorem byteAt?_closing :
    byteAt? (before ++ (String.singleton ']' ++ after)) before.utf8ByteSize =
      some closeByte :=
  byteAt?_of_size_one (by decide : ']'.utf8Size = 1)

/-! ## Cuts around a pair -/

section Pair

variable (base plain inside rest : String)

/-- A text in which a pair is at hand, behind some text that is done with. -/
def paired : String :=
  (base ++ (plain ++ ("[" ++ inside))) ++ (String.singleton ']' ++ rest)

theorem size_opening : "[".utf8ByteSize = 1 := rfl

theorem slice?_before :
    slice? (paired base plain inside rest) 0 (base ++ plain).utf8ByteSize =
      some (base ++ plain) := by
  refine slice?_of_parts "" ("[" ++ inside ++ (String.singleton ']' ++ rest)) ?_ rfl ?_
  · simp only [paired, String.append_assoc, String.empty_append]
  · exact (Nat.zero_add _).symm

theorem slice?_plain :
    slice? (paired base plain inside rest) base.utf8ByteSize (base ++ plain).utf8ByteSize =
      some plain := by
  refine slice?_of_parts base ("[" ++ inside ++ (String.singleton ']' ++ rest)) ?_ rfl ?_
  · simp only [paired, String.append_assoc]
  · exact String.utf8ByteSize_append

theorem slice?_inside :
    slice? (paired base plain inside rest) ((base ++ plain).utf8ByteSize + 1)
      (base ++ (plain ++ ("[" ++ inside))).utf8ByteSize = some inside := by
  refine slice?_of_parts (base ++ plain ++ "[") (String.singleton ']' ++ rest) ?_ ?_ ?_
  · simp only [paired, String.append_assoc]
  · simp only [String.utf8ByteSize_append, size_opening]
  · simp only [String.utf8ByteSize_append, size_opening]
    omega

theorem slice?_after :
    slice? (paired base plain inside rest)
      ((base ++ (plain ++ ("[" ++ inside))).utf8ByteSize + 1)
      (paired base plain inside rest).utf8ByteSize = some rest := by
  refine slice?_of_parts (base ++ (plain ++ ("[" ++ inside)) ++ String.singleton ']') ""
    ?_ ?_ ?_
  · simp only [paired, String.append_assoc, String.append_empty]
  · simp only [String.utf8ByteSize_append, String.utf8ByteSize_singleton]
    rfl
  · simp only [paired, String.utf8ByteSize_append, String.utf8ByteSize_singleton]
    rw [← Nat.add_assoc]
    rfl

end Pair

/-! ## The pass that rebuilds the text -/

namespace Pass

variable {tags : Highlighter} {pass : Pass}

theorem isRunning_of_byteAt? {byte : UInt8}
    (found : byteAt? pass.text pass.offset = some byte) : pass.isRunning = true := by
  unfold byteAt? at found
  split at found
  · next inside => simpa only [isRunning, decide_eq_true_eq] using inside
  · contradiction

theorem run_succ {byte : UInt8} (found : byteAt? pass.text pass.offset = some byte)
    (fuel : Nat) : run tags (fuel + 1) pass = (pass.step tags).bind (run tags fuel) := by
  rw [run, if_pos (isRunning_of_byteAt? found)]

theorem step_of_passed {byte : UInt8} (found : byteAt? pass.text pass.offset = some byte)
    (passed : Passed pass.opened byte) :
    pass.step tags = some { pass with offset := pass.offset + 1 } := by
  obtain ⟨isNotOpen, closing⟩ := passed
  simp only [step, found, isNotOpen, ↓reduceIte]
  split
  · next isClose => simp only [closing isClose]
  · rfl

/-- Bytes that are passed over only move the pass on. -/
theorem run_of_passed (fuel : Nat)
    (passed : ∀ index < count, ∃ byte,
      byteAt? pass.text (pass.offset + index) = some byte ∧ Passed pass.opened byte) :
    run tags (count + fuel) pass =
      run tags fuel { pass with offset := pass.offset + count } := by
  -- Every step moves the offset, so the pass is not the same in the induction hypothesis.
  induction count generalizing pass with
  | zero => simp
  | succ count ih =>
      obtain ⟨byte, found, here⟩ := passed 0 (by omega)
      have steps : count + 1 + fuel = count + fuel + 1 := by omega
      rw [steps, run_succ found, step_of_passed found here, Option.bind_some, ih]
      · rw [Nat.add_assoc, Nat.add_comm 1 count]
      · intro index inside
        obtain ⟨byte, found, there⟩ := passed (index + 1) (by omega)
        refine ⟨byte, ?_, there⟩
        rw [Nat.add_comm index 1, ← Nat.add_assoc] at found
        exact found

/-- The pass after the characters of a scan, with some text left to read. -/
def ofScan (tags : Highlighter) (scan : Scan) (rest : String) : Pass where
  text := (tags.render scan.found ++ scan.pending) ++ rest
  opened := scan.opened (tags.render scan.found)
  offset := (tags.render scan.found ++ scan.pending).utf8ByteSize

theorem byteAt?_ofScan_opening (tags : Highlighter) (scan : Scan) (rest : String) :
    byteAt? (ofScan tags scan (String.singleton '[' ++ rest)).text
      (ofScan tags scan (String.singleton '[' ++ rest)).offset = some openByte :=
  byteAt?_opening

theorem byteAt?_ofScan_closing (tags : Highlighter) (scan : Scan) (rest : String) :
    byteAt? (ofScan tags scan (String.singleton ']' ++ rest)).text
      (ofScan tags scan (String.singleton ']' ++ rest)).offset = some closeByte :=
  byteAt?_closing

variable {scan : Scan} {rest : String}

theorem step_opening :
    (ofScan tags scan (String.singleton '[' ++ rest)).step tags =
      some (ofScan tags (scan.feed '[') rest) := by
  have found := byteAt?_ofScan_opening tags scan rest
  have feeding : scan.feed '[' = scan.openPair := rfl
  simp only [step, found, ↓reduceIte, feeding]
  simp only [ofScan, Scan.openPair_pending, Scan.openPair_opened, Option.some.injEq,
    Pass.mk.injEq, String.append_assoc, String.utf8ByteSize_append]
  exact ⟨rfl, rfl, rfl⟩

theorem step_closing {inside : String} (opened : scan.inside = some inside) :
    (ofScan tags scan (String.singleton ']' ++ rest)).step tags =
      some (ofScan tags (scan.feed ']') rest) := by
  -- The text of the pass is cut before the pair, inside it and behind it.
  have found := byteAt?_ofScan_closing tags scan rest
  have isNotOpen : ¬closeByte = openByte := by decide
  simp only [step, found, isNotOpen, ↓reduceIte]
  simp only [ofScan, Scan.opened_of_some _ opened, Scan.pending_of_opened opened,
    Scan.feed_closing opened]
  have cutBefore := slice?_before (tags.render scan.found) scan.plain inside rest
  have cutInside := slice?_inside (tags.render scan.found) scan.plain inside rest
  have cutAfter := slice?_after (tags.render scan.found) scan.plain inside rest
  unfold paired at cutBefore cutInside cutAfter
  simp only [cutBefore, cutInside, cutAfter, Option.bind_eq_bind, Option.bind_some,
    Option.some.injEq, Pass.mk.injEq]
  have rendered : tags.render (scan.found ++ plainPiece scan.plain ++ [.highlight inside]) =
      tags.render scan.found ++ scan.plain ++ tags.opening ++ inside ++ tags.closing := by
    simp only [Highlighter.render_append, Highlighter.render_plainPiece,
      Highlighter.render_singleton, Highlighter.renderSegment, String.append_assoc]
  rw [rendered]
  refine ⟨?_, rfl, ?_⟩
  · simp only [Scan.pending, String.append_empty]
  · simp only [Scan.pending, String.append_empty, String.utf8ByteSize_append]

/-- A character takes the pass where it takes the scan. -/
theorem run_char (tags : Highlighter) (scan : Scan) (c : Char) (rest : String) (fuel : Nat) :
    run tags (c.utf8Size + fuel) (ofScan tags scan (String.singleton c ++ rest)) =
      run tags fuel (ofScan tags (scan.feed c) rest) := by
  rcases scan.cases_of_char c with rfl | ⟨rfl, inside, opened⟩ | keeps
  · have single : '['.utf8Size + fuel = fuel + 1 := Nat.add_comm 1 fuel
    rw [single, run_succ (byteAt?_ofScan_opening tags scan rest), step_opening,
      Option.bind_some]
  · have single : ']'.utf8Size + fuel = fuel + 1 := Nat.add_comm 1 fuel
    rw [single, run_succ (byteAt?_ofScan_closing tags scan rest), step_closing opened,
      Option.bind_some]
  · have passed : ∀ index < c.utf8Size, ∃ byte,
        byteAt? (ofScan tags scan (String.singleton c ++ rest)).text
          ((ofScan tags scan (String.singleton c ++ rest)).offset + index) = some byte ∧
        Passed (ofScan tags scan (String.singleton c ++ rest)).opened byte :=
      fun index inside => passed_of_keeps keeps (Scan.opened_of_none _) inside
    rw [run_of_passed fuel passed, Scan.feed_of_keeps keeps]
    simp only [ofScan, Scan.add_found, Scan.add_pending, Scan.add_opened, String.append_assoc,
      String.utf8ByteSize_append, String.utf8ByteSize_singleton, Nat.add_assoc]

/-- Reading every byte that is left takes the pass where the characters take the scan. -/
theorem run_chars (tags : Highlighter) (scan : Scan) (chars : List Char) (fuel : Nat) :
    run tags ((String.ofList chars).utf8ByteSize + fuel)
        (ofScan tags scan (String.ofList chars)) =
      run tags fuel (ofScan tags (chars.foldl Scan.feed scan) "") := by
  induction chars generalizing scan with
  | nil =>
      rw [String.ofList_nil, String.utf8ByteSize_empty, Nat.zero_add]
      rfl
  | cons c chars ih =>
      rw [String.ofList_cons, String.utf8ByteSize_append, String.utf8ByteSize_singleton,
        Nat.add_assoc, run_char, ih, List.foldl_cons]

/-- At the end of the text the pass stops, whatever number of steps is left. -/
theorem run_at_end (tags : Highlighter) (scan : Scan) (fuel : Nat) :
    run tags fuel (ofScan tags scan "") = some (ofScan tags scan "") := by
  have stopped : (ofScan tags scan "").isRunning = false := by
    simp only [isRunning, ofScan, String.append_empty, Nat.lt_irrefl, decide_false]
  cases fuel with
  | zero => rfl
  | succ fuel => rw [run, stopped, if_neg Bool.false_ne_true]

end Pass

/-! ## The pass that splits the text -/

namespace Split

variable {scan : Scan} {split : Split}

theorem step_of_passed {byte : UInt8} (found : byteAt? text offset = some byte)
    (passed : Passed split.opened byte) : step text split offset = some split := by
  obtain ⟨isNotOpen, closing⟩ := passed
  simp only [step, found, isNotOpen, ↓reduceIte]
  split
  · next isClose => simp only [closing isClose]
  · rfl

/-- Bytes that are passed over leave the pieces and the open bracket as they are. -/
theorem foldlM_of_passed
    (passed : ∀ index < count, ∃ byte,
      byteAt? text (offset + index) = some byte ∧ Passed split.opened byte) :
    (List.range' offset count).foldlM (step text) split = some split := by
  induction count generalizing offset with
  | zero => rfl
  | succ count ih =>
      obtain ⟨byte, found, here⟩ := passed 0 (by omega)
      have stepped : step text split offset = some split := step_of_passed found here
      rw [List.range'_succ, List.foldlM_cons, stepped, Option.bind_eq_bind, Option.bind_some]
      apply ih
      intro index inside
      obtain ⟨byte, found, there⟩ := passed (index + 1) (by omega)
      rw [Nat.add_comm index 1, ← Nat.add_assoc] at found
      exact ⟨byte, found, there⟩

/-- The pieces after the characters of a scan. -/
def ofScan (scan : Scan) : Split where
  found := scan.found
  opened := scan.opened (source scan.found)
  start := (source scan.found).utf8ByteSize

theorem step_opening {rest : String}
    (reading : text = scan.read ++ (String.singleton '[' ++ rest)) :
    step text (ofScan scan) scan.read.utf8ByteSize = some (ofScan (scan.feed '[')) := by
  have found : byteAt? text scan.read.utf8ByteSize = some openByte := by
    rw [reading]
    exact byteAt?_opening
  simp only [step, found, ↓reduceIte]
  rfl

/-- Plain text is found before a pair unless it is empty, which the offsets tell. -/
theorem lt_iff_plain_ne {start stop : Nat} {plain : String}
    (last : stop = start + plain.utf8ByteSize) : start < stop ↔ plain ≠ "" := by
  have nonempty : plain ≠ "" ↔ plain.utf8ByteSize ≠ 0 := by
    rw [ne_eq, ne_eq, String.utf8ByteSize_eq_zero_iff]
  rw [nonempty]
  omega

theorem step_closing {rest inside : String} (opened : scan.inside = some inside)
    (reading : text = scan.read ++ (String.singleton ']' ++ rest)) :
    step text (ofScan scan) scan.read.utf8ByteSize = some (ofScan (scan.feed ']')) := by
  have found : byteAt? text scan.read.utf8ByteSize = some closeByte := by
    rw [reading]
    exact byteAt?_closing
  have read : scan.read = source scan.found ++ (scan.plain ++ ("[" ++ inside)) := by
    rw [Scan.read, Scan.pending_of_opened opened]
  have parts : text = paired (source scan.found) scan.plain inside rest := by
    rw [reading, read, paired]
  have cutPlain := slice?_plain (source scan.found) scan.plain inside rest
  have cutInside := slice?_inside (source scan.found) scan.plain inside rest
  rw [← parts] at cutPlain cutInside
  rw [← read] at cutInside
  -- Nothing is pending behind a pair, so the pieces stand for all that has been read.
  have behind : (source (scan.feed ']').found).utf8ByteSize = scan.read.utf8ByteSize + 1 := by
    have nothing : (scan.feed ']').pending = "" := by
      rw [Scan.feed_closing opened]
      rfl
    have size := congrArg String.utf8ByteSize (scan.read_feed ']')
    rw [Scan.read, nothing, String.append_empty, String.utf8ByteSize_append] at size
    exact size
  have order : (source scan.found).utf8ByteSize <
      (source scan.found ++ scan.plain).utf8ByteSize ↔ scan.plain ≠ "" :=
    lt_iff_plain_ne String.utf8ByteSize_append
  have isNotOpen : ¬closeByte = openByte := by decide
  simp only [step, found, isNotOpen, ↓reduceIte]
  simp only [ofScan, Scan.opened_of_some _ opened, behind, order]
  rw [Scan.feed_closing opened]
  by_cases nothing : scan.plain = ""
  · rw [if_neg (not_not_intro nothing), cutInside, plainPiece, if_pos nothing]
    rfl
  · rw [if_pos nothing, cutPlain, cutInside, plainPiece, if_neg nothing]
    rfl

/-- A character takes the split where it takes the scan. -/
theorem foldlM_char {rest : String}
    (reading : text = scan.read ++ (String.singleton c ++ rest)) :
    (List.range' scan.read.utf8ByteSize c.utf8Size).foldlM (step text) (ofScan scan) =
      some (ofScan (scan.feed c)) := by
  rcases scan.cases_of_char c with rfl | ⟨rfl, inside, opened⟩ | keeps
  · have single : List.range' scan.read.utf8ByteSize '['.utf8Size =
        [scan.read.utf8ByteSize] := rfl
    rw [single, List.foldlM_cons, step_opening reading]
    rfl
  · have single : List.range' scan.read.utf8ByteSize ']'.utf8Size =
        [scan.read.utf8ByteSize] := rfl
    rw [single, List.foldlM_cons, step_closing opened reading]
    rfl
  · have kept : ofScan (scan.feed c) = ofScan scan := by
      rw [Scan.feed_of_keeps keeps]
      simp only [ofScan, Scan.add_found, Scan.add_opened]
    rw [kept]
    apply foldlM_of_passed
    intro index inside
    rw [reading]
    exact passed_of_keeps keeps (Scan.opened_of_none _) inside

/-- The split of the bytes that are left is that of the characters. -/
theorem foldlM_chars {chars : List Char} (reading : text = scan.read ++ String.ofList chars) :
    (List.range' scan.read.utf8ByteSize (String.ofList chars).utf8ByteSize).foldlM
      (step text) (ofScan scan) = some (ofScan (chars.foldl Scan.feed scan)) := by
  induction chars generalizing scan with
  | nil => rfl
  | cons c chars ih =>
      rw [String.ofList_cons] at reading
      have later : text = (scan.feed c).read ++ String.ofList chars := by
        rw [reading, Scan.read_feed, String.append_assoc]
      have bytes : (scan.feed c).read.utf8ByteSize = scan.read.utf8ByteSize + c.utf8Size := by
        rw [Scan.read_feed, String.utf8ByteSize_append, String.utf8ByteSize_singleton]
      have remaining := ih later
      rw [bytes] at remaining
      rw [String.ofList_cons, String.utf8ByteSize_append, String.utf8ByteSize_singleton,
        ← List.range'_append_1, List.foldlM_append, foldlM_char reading, Option.bind_eq_bind,
        Option.bind_some, remaining, List.foldl_cons]

theorem finish_ofScan (reading : text = scan.read) :
    finish text (ofScan scan) = some scan.finish := by
  have size : text.utf8ByteSize =
      (source scan.found).utf8ByteSize + scan.pending.utf8ByteSize := by
    rw [reading, Scan.read, String.utf8ByteSize_append]
  have order := lt_iff_plain_ne size
  have cut : slice? text (source scan.found).utf8ByteSize text.utf8ByteSize =
      some scan.pending := by
    refine slice?_of_parts (source scan.found) "" ?_ rfl size
    rw [reading, Scan.read, String.append_empty]
  simp only [finish, ofScan, order, Scan.finish, plainPiece]
  by_cases nothing : scan.pending = ""
  · rw [if_neg (not_not_intro nothing), if_pos nothing, List.append_nil]
  · rw [if_pos nothing, if_neg nothing, cut, Option.map_some]

end Split

/-! ## Whole texts -/

theorem segments?_eq (text : String) : segments? text = some (Scan.ofText text).finish := by
  have reading : text = Scan.start.read ++ String.ofList text.toList := by
    rw [String.ofList_toList]
    exact String.empty_append.symm
  have split := Split.foldlM_chars reading
  rw [String.ofList_toList] at split
  have started : (⟨[], none, 0⟩ : Split) = Split.ofScan Scan.start := rfl
  have fromStart : Scan.start.read.utf8ByteSize = 0 := rfl
  rw [fromStart] at split
  rw [segments?, List.range_eq_range', started, split, Option.bind_some]
  exact Split.finish_ofScan (Scan.read_ofText text).symm

/-- One step for each byte is enough to rebuild a text, and more make no difference. -/
theorem run_eq (tags : Highlighter) (text : String) (extra : Nat) :
    (Pass.run tags (text.utf8ByteSize + extra) ⟨text, none, 0⟩).map Pass.text =
      some (tags.render (Scan.ofText text).finish) := by
  have started : (⟨text, none, 0⟩ : Pass) = Pass.ofScan tags Scan.start text := by
    simp only [Pass.ofScan, Scan.start, Highlighter.render_nil, Scan.pending]
    rfl
  have rebuilt := Pass.run_chars tags Scan.start text.toList extra
  rw [String.ofList_toList, Pass.run_at_end] at rebuilt
  rw [started, rebuilt, Option.map_some, Scan.render_finish]
  simp only [Pass.ofScan, String.append_empty]
  rfl

/-- Rebuilding a text with tags in place of the paired brackets gives what rendering its
pieces gives, for any tags.  Neither pass over the bytes is ever stopped by a cut, and the
one that rebuilds the text is not cut short by the number of steps that it is allowed. -/
theorem format_eq_render_segments (tags : Highlighter) (text : String) :
    segments? text = some (segments text) ∧
    (∀ extra, (Pass.run tags (text.utf8ByteSize + extra) ⟨text, none, 0⟩).map Pass.text =
      some (tags.format text)) ∧
    tags.format text = tags.render (segments text) := by
  have split : segments text = (Scan.ofText text).finish := by
    rw [segments, segments?_eq, Option.getD_some]
  have rebuilt : tags.format text = tags.render (Scan.ofText text).finish := by
    have once := run_eq tags text 0
    rw [Nat.add_zero] at once
    rw [Highlighter.format, Highlighter.format?, once, Option.getD_some]
  refine ⟨?_, ?_, ?_⟩
  · rw [segments?_eq, split]
  · intro extra
    rw [run_eq, rebuilt]
  · rw [rebuilt, split]

/-- Tags that hold brackets themselves are not read again. -/
example : (Highlighter.mk "]" "[").format "[[é] x]" = "[]é[ x]" := by decide +kernel

end BranchingStory.Markup
