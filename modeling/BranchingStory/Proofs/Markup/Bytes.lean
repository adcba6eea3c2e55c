import BranchingStory.Proofs.Markup.Passes
import BranchingStory.Proofs.Text.Boundary

/-!
# The passes over bare bytes

Written over bare bytes, both passes read bytes by offset and cut where they find brackets,
without knowing that what they hold is text.  They nevertheless do what the passes over the
text do: every byte that is read is there, every cut falls between characters, and what is
put together is text again.  The pass that rebuilds the text moves its end as well as its
place, but each round leaves one byte less to read, so it makes as many rounds as the text
has bytes.
-/

namespace BranchingStory.Markup

open Text

variable {tags : Highlighter} {text : String} {count : Nat}

/-! ## Rounds of the pass over a text -/

namespace Pass

variable {pass next last : Pass}

/-- The number of bytes that are left to read. -/
def left (pass : Pass) : Nat := pass.text.utf8ByteSize - pass.offset

theorem isRunning_iff : pass.isRunning = true ↔ 0 < pass.left := by
  simp only [isRunning, left, decide_eq_true_eq]
  omega

/-- What a step makes of a pass, by the byte that it reads. -/
inductive Stepped (tags : Highlighter) (pass : Pass) : UInt8 → Pass → Prop where
  | opens : Stepped tags pass openByte
      { pass with opened := some pass.offset, offset := pass.offset + 1 }
  | passes {byte : UInt8} (passed : Passed pass.opened byte) :
      Stepped tags pass byte { pass with offset := pass.offset + 1 }
  | rebuilds {start : Nat} {before inside after : String} (opened : pass.opened = some start)
      (cutBefore : slice? pass.text 0 start = some before)
      (cutInside : slice? pass.text (start + 1) pass.offset = some inside)
      (cutAfter : slice? pass.text (pass.offset + 1) pass.text.utf8ByteSize = some after) :
      Stepped tags pass closeByte
        ⟨before ++ tags.opening ++ inside ++ tags.closing ++ after, none,
          start + tags.opening.utf8ByteSize + inside.utf8ByteSize + tags.closing.utf8ByteSize⟩

theorem stepped_of_step (running : pass.isRunning = true)
    (stepped : pass.step tags = some next) :
    ∃ byte, byteAt? pass.text pass.offset = some byte ∧ Stepped tags pass byte next := by
  have inside : pass.offset < pass.text.utf8ByteSize := of_decide_eq_true running
  obtain ⟨byte, found⟩ : ∃ byte, byteAt? pass.text pass.offset = some byte := ⟨_, dif_pos inside⟩
  refine ⟨byte, found, ?_⟩
  simp only [step, found] at stepped
  split at stepped
  · next isOpen =>
      cases stepped
      rw [isOpen]
      exact .opens
  · next isNotOpen =>
      split at stepped
      · next isClose =>
          split at stepped
          · next unpaired =>
              cases stepped
              exact .passes ⟨isNotOpen, fun _ => unpaired⟩
          · next start opened =>
              simp only [Option.bind_eq_bind, Option.bind_eq_some_iff] at stepped
              obtain ⟨before, cutBefore, inside, cutInside, after, cutAfter, rebuilt⟩ := stepped
              cases rebuilt
              rw [isClose]
              exact .rebuilds opened cutBefore cutInside cutAfter
      · next isNotClose =>
          cases stepped
          exact .passes ⟨isNotOpen, fun isClose => absurd isClose isNotClose⟩

/-- However long the tags are, a step leaves one byte less to read: what follows a pair stays
behind its closing tag. -/
theorem left_of_step (running : pass.isRunning = true) (stepped : pass.step tags = some next) :
    next.left + 1 = pass.left := by
  have inside : pass.offset < pass.text.utf8ByteSize := of_decide_eq_true running
  obtain ⟨_, _, made⟩ := stepped_of_step running stepped
  cases made with
  | opens =>
      simp only [left]
      omega
  | passes =>
      simp only [left]
      omega
  | rebuilds opened cutBefore cutInside cutAfter =>
      have behind := size_of_slice? cutBefore
      have remaining := size_of_slice? cutAfter
      simp only [left, String.utf8ByteSize_append]
      omega

theorem run_of_stopped (stopped : pass.isRunning = false) : run tags count pass = some pass := by
  cases count with
  | zero => rfl
  | succ count => rw [run, stopped, if_neg Bool.false_ne_true]

theorem run_add (tags : Highlighter) (count more : Nat) (pass : Pass) :
    run tags (count + more) pass = (run tags count pass).bind (run tags more) := by
  induction count generalizing pass with
  | zero => rw [Nat.zero_add, run, Option.bind_some]
  | succ count ih =>
      rw [Nat.succ_add]
      cases running : pass.isRunning with
      | false => simp only [run_of_stopped running, Option.bind_some]
      | true =>
          simp only [run, running, ↓reduceIte, Option.bind_assoc]
          exact congrArg _ (funext ih)

end Pass

/-! ## Rounds of the pass that splits the text -/

namespace Split

variable {split next : Split} {offset : Nat}

/-- The text between two offsets as a plain piece, unless there is none. -/
def plainSlice? (text : String) (start stop : Nat) : Option (List Segment) :=
  if start < stop then (slice? text start stop).map fun plain => [.plain plain] else some []

/-- What a step makes of a split, by the byte that it reads. -/
inductive Stepped (text : String) (split : Split) (offset : Nat) : UInt8 → Split → Prop where
  | opens : Stepped text split offset openByte { split with opened := some offset }
  | passes {byte : UInt8} (passed : Passed split.opened byte) :
      Stepped text split offset byte split
  | adds {opened : Nat} {before : List Segment} {inside : String}
      (openedAt : split.opened = some opened)
      (cutBefore : plainSlice? text split.start opened = some before)
      (cutInside : slice? text (opened + 1) offset = some inside) :
      Stepped text split offset closeByte
        ⟨split.found ++ before ++ [.highlight inside], none, offset + 1⟩

theorem stepped_of_step (inside : offset < text.utf8ByteSize)
    (stepped : split.step text offset = some next) :
    ∃ byte, byteAt? text offset = some byte ∧ Stepped text split offset byte next := by
  obtain ⟨byte, found⟩ : ∃ byte, byteAt? text offset = some byte := ⟨_, dif_pos inside⟩
  refine ⟨byte, found, ?_⟩
  simp only [step, found] at stepped
  split at stepped
  · next isOpen =>
      cases stepped
      rw [isOpen]
      exact .opens
  · next isNotOpen =>
      split at stepped
      · next isClose =>
          split at stepped
          · next unpaired =>
              cases stepped
              exact .passes ⟨isNotOpen, fun _ => unpaired⟩
          · next opened openedAt =>
              rw [isClose]
              simp only [Option.bind_eq_bind] at stepped
              split at stepped
              · next isPlain =>
                  simp only [Option.bind_eq_some_iff] at stepped
                  obtain ⟨before, cutBefore, inside, cutInside, added⟩ := stepped
                  cases added
                  exact .adds openedAt ((if_pos isPlain).trans cutBefore) cutInside
              · next isEmpty =>
                  simp only [Option.bind_some, Option.bind_eq_some_iff] at stepped
                  obtain ⟨inside, cutInside, added⟩ := stepped
                  cases added
                  exact .adds openedAt (if_neg isEmpty) cutInside
      · next isNotClose =>
          cases stepped
          exact .passes ⟨isNotOpen, fun isClose => absurd isClose isNotClose⟩

theorem finish_cases {pieces : List Segment} (finished : split.finish text = some pieces) :
    ∃ last, plainSlice? text split.start text.utf8ByteSize = some last ∧
      pieces = split.found ++ last := by
  unfold finish at finished
  unfold plainSlice?
  split at finished
  · next isPlain =>
      obtain ⟨plain, cut, rfl⟩ := Option.map_eq_some_iff.1 finished
      rw [if_pos isPlain, cut]
      exact ⟨_, rfl, rfl⟩
  · next isEmpty =>
      cases finished
      rw [if_neg isEmpty]
      exact ⟨_, rfl, (List.append_nil _).symm⟩

end Split

/-! ## Rebuilding bytes -/

/-- A pass over bytes that change on the way. -/
structure BytePass where
  bytes : ByteArray
  /-- The offset of the last opening bracket without a partner. -/
  opened : Option Nat
  /-- The offset of the byte that is read next. -/
  offset : Nat

namespace BytePass

/-- Whether a byte is left to read. -/
def isRunning (pass : BytePass) : Bool := pass.offset < pass.bytes.size

/-- One round of the pass. -/
def step (tags : Highlighter) (pass : BytePass) : Except ByteStop BytePass := do
  let next := { pass with offset := pass.offset + 1 }
  let byte ← readByte pass.bytes pass.offset
  if byte = openByte then
    return { next with opened := some pass.offset }
  else if byte = closeByte then
    match pass.opened with
    | none => return next
    | some start =>
        let inside ← cutBytes pass.bytes (start + 1) pass.offset
        let before ← cutBytes pass.bytes 0 start
        let after ← cutBytes pass.bytes (pass.offset + 1) pass.bytes.size
        let opening := tags.opening.toByteArray
        let closing := tags.closing.toByteArray
        return ⟨before ++ opening ++ inside ++ closing ++ after, none,
          start + opening.size + inside.size + closing.size⟩
  else
    return next

/-- A number of rounds, one after another. -/
def rounds (tags : Highlighter) : Nat → BytePass → Except ByteStop BytePass
  | 0, pass => .ok pass
  | count + 1, pass => do rounds tags count (← pass.step tags)

/-- A pass over a text, in bytes. -/
def ofPass (pass : Pass) : BytePass := ⟨pass.text.toByteArray, pass.opened, pass.offset⟩

variable {pass next last : Pass}

theorem isRunning_ofPass (pass : Pass) : (ofPass pass).isRunning = pass.isRunning := rfl

/-- Where the pass over a text makes a step, no read and no cut of its bytes goes wrong. -/
theorem step_ofPass (running : pass.isRunning = true) (stepped : pass.step tags = some next) :
    (ofPass pass).step tags = .ok (ofPass next) := by
  obtain ⟨byte, found, made⟩ := Pass.stepped_of_step running stepped
  have read : readByte (ofPass pass).bytes (ofPass pass).offset = .ok byte :=
    readByte_of_byteAt? found
  unfold step
  rw [read]
  cases made with
  | opens => rfl
  | passes passed =>
      obtain ⟨isNotOpen, unpaired⟩ := passed
      by_cases isClose : byte = closeByte
      · subst isClose
        simp only [bind, Except.bind, isNotOpen, ofPass, unpaired rfl, ↓reduceIte]
        rfl
      · simp only [bind, Except.bind, isNotOpen, isClose, ↓reduceIte]
        rfl
  | @rebuilds start before inside after opened cutBefore cutInside cutAfter =>
      have isNotOpen : ¬closeByte = openByte := by decide
      have openedAt : (ofPass pass).opened = some start := opened
      have here := cutBytes_of_slice? cutInside
      have behind := cutBytes_of_slice? cutBefore
      have ahead := cutBytes_of_slice? cutAfter
      simp only [bind, Except.bind, isNotOpen, openedAt, ↓reduceIte]
      simp only [ofPass, ← String.size_toByteArray] at here behind ahead ⊢
      simp only [here, behind, ahead]
      simp only [String.toByteArray_append]
      rfl

/-- As many rounds as there are bytes left, or fewer, follow the pass over the text. -/
theorem rounds_ofPass (ran : Pass.run tags count pass = some last)
    (enough : count ≤ pass.left) :
    rounds tags count (ofPass pass) = .ok (ofPass last) ∧ last.left + count = pass.left := by
  induction count generalizing pass with
  | zero =>
      cases ran
      exact ⟨rfl, rfl⟩
  | succ count ih =>
      have running : pass.isRunning = true := Pass.isRunning_iff.2 (by omega)
      rw [Pass.run, if_pos running, Option.bind_eq_some_iff] at ran
      obtain ⟨next, stepped, ran⟩ := ran
      have shrunk := Pass.left_of_step running stepped
      obtain ⟨followed, remaining⟩ := ih ran (by omega)
      refine ⟨?_, by omega⟩
      rw [rounds, step_ofPass running stepped]
      exact followed

/-- The pass before its first round. -/
def start (text : String) : BytePass := ⟨text.toByteArray, none, 0⟩

/-- After every number of rounds up to the number of bytes the pass still holds a text, and
it goes on unless all of them are done. -/
theorem rounds_start (tags : Highlighter) (enough : count ≤ text.utf8ByteSize) :
    ∃ pass, Pass.run tags count ⟨text, none, 0⟩ = some pass ∧
      rounds tags count (start text) = .ok (ofPass pass) ∧
      ((ofPass pass).isRunning = true ↔ count < text.utf8ByteSize) := by
  obtain ⟨last, ranAll, _⟩ := Option.map_eq_some_iff.1 (run_eq tags text 0)
  have parts : text.utf8ByteSize + 0 = count + (text.utf8ByteSize - count) := by omega
  rw [parts, Pass.run_add, Option.bind_eq_some_iff] at ranAll
  obtain ⟨pass, ran, _⟩ := ranAll
  obtain ⟨followed, remaining⟩ := rounds_ofPass ran enough
  refine ⟨pass, ran, followed, ?_⟩
  have size : (Pass.mk text none 0).left = text.utf8ByteSize := rfl
  rw [isRunning_ofPass, Pass.isRunning_iff]
  omega

end BytePass

/-! ## Splitting bytes -/

/-- A piece of marked bytes. -/
inductive ByteSegment where
  | plain (bytes : ByteArray)
  | highlight (bytes : ByteArray)

/-- The bytes of a piece without its brackets. -/
def ByteSegment.bytes : ByteSegment → ByteArray
  | .plain bytes | .highlight bytes => bytes

/-- A piece of marked text, in bytes. -/
def Segment.inBytes : Segment → ByteSegment
  | .plain text => .plain text.toByteArray
  | .highlight text => .highlight text.toByteArray

theorem Segment.bytes_inBytes (piece : Segment) :
    piece.inBytes.bytes = piece.text.toByteArray := by
  cases piece <;> rfl

/-- The bytes between two offsets as a plain piece, if there are any. -/
def plainBytes (bytes : ByteArray) (start stop : Nat) : Except ByteStop (List ByteSegment) := do
  if start < stop then return [.plain (← cutBytes bytes start stop)] else return []

theorem plainBytes_of_plainSlice? {start stop : Nat} {pieces : List Segment}
    (sliced : Split.plainSlice? text start stop = some pieces) :
    plainBytes text.toByteArray start stop = .ok (pieces.map Segment.inBytes) := by
  unfold Split.plainSlice? at sliced
  unfold plainBytes
  split at sliced
  · next isPlain =>
      obtain ⟨plain, cut, rfl⟩ := Option.map_eq_some_iff.1 sliced
      rw [if_pos isPlain, cutBytes_of_slice? cut]
      rfl
  · next isEmpty =>
      cases sliced
      rw [if_neg isEmpty]
      rfl

/-- A pass over bytes that collects their pieces. -/
structure ByteSplit where
  /-- The pieces found so far, in order. -/
  found : List ByteSegment
  /-- The offset of the last opening bracket without a partner. -/
  opened : Option Nat
  /-- The offset behind the last piece. -/
  start : Nat

namespace ByteSplit

/-- One round of the pass, at an offset. -/
def step (bytes : ByteArray) (split : ByteSplit) (offset : Nat) : Except ByteStop ByteSplit := do
  let byte ← readByte bytes offset
  if byte = openByte then
    return { split with opened := some offset }
  else if byte = closeByte then
    match split.opened with
    | none => return split
    | some opened =>
        let before ← plainBytes bytes split.start opened
        let inside ← cutBytes bytes (opened + 1) offset
        return ⟨split.found ++ before ++ [.highlight inside], none, offset + 1⟩
  else
    return split

/-- A number of rounds, at the offsets in order. -/
def rounds (bytes : ByteArray) (count : Nat) : Except ByteStop ByteSplit :=
  (List.range count).foldlM (step bytes) ⟨[], none, 0⟩

/-- Adds the plain bytes that are left at the end, if there are any. -/
def finish (bytes : ByteArray) (split : ByteSplit) : Except ByteStop (List ByteSegment) := do
  return split.found ++ (← plainBytes bytes split.start bytes.size)

/-- A split of a text, in bytes. -/
def ofSplit (split : Split) : ByteSplit :=
  ⟨split.found.map Segment.inBytes, split.opened, split.start⟩

variable {split next last : Split} {offset : Nat}

/-- Where the pass over a text makes a step, no read and no cut of its bytes goes wrong. -/
theorem step_ofSplit (inside : offset < text.utf8ByteSize)
    (stepped : split.step text offset = some next) :
    step text.toByteArray (ofSplit split) offset = .ok (ofSplit next) := by
  obtain ⟨byte, found, made⟩ := Split.stepped_of_step inside stepped
  unfold step
  rw [readByte_of_byteAt? found]
  cases made with
  | opens => rfl
  | passes passed =>
      obtain ⟨isNotOpen, unpaired⟩ := passed
      by_cases isClose : byte = closeByte
      · subst isClose
        simp only [bind, Except.bind, isNotOpen, ofSplit, unpaired rfl, ↓reduceIte]
        rfl
      · simp only [bind, Except.bind, isNotOpen, isClose, ↓reduceIte]
        rfl
  | adds openedAt cutBefore cutInside =>
      have isNotOpen : ¬closeByte = openByte := by decide
      simp only [bind, Except.bind, isNotOpen, ofSplit, openedAt, ↓reduceIte,
        plainBytes_of_plainSlice? cutBefore, cutBytes_of_slice? cutInside, List.map_append]
      rfl

theorem finish_ofSplit {pieces : List Segment} (finished : split.finish text = some pieces) :
    finish text.toByteArray (ofSplit split) = .ok (pieces.map Segment.inBytes) := by
  obtain ⟨last, cut, rfl⟩ := Split.finish_cases finished
  simp only [finish, ofSplit, String.size_toByteArray, plainBytes_of_plainSlice? cut,
    List.map_append]
  rfl

/-- The rounds over the bytes of a text follow those over the text. -/
theorem foldlM_ofSplit {offsets : List Nat}
    (within : ∀ offset ∈ offsets, offset < text.utf8ByteSize)
    (folded : offsets.foldlM (Split.step text) split = some last) :
    offsets.foldlM (step text.toByteArray) (ofSplit split) = .ok (ofSplit last) := by
  induction offsets generalizing split with
  | nil =>
      cases folded
      rfl
  | cons offset offsets ih =>
      obtain ⟨here, later⟩ := List.forall_mem_cons.1 within
      rw [List.foldlM_cons, Option.bind_eq_bind, Option.bind_eq_some_iff] at folded
      obtain ⟨next, stepped, folded⟩ := folded
      rw [List.foldlM_cons, step_ofSplit here stepped]
      exact ih later folded

/-- After every number of rounds up to the number of bytes the pieces found are still pieces
of text. -/
theorem rounds_of_le (enough : count ≤ text.utf8ByteSize) :
    ∃ split, rounds text.toByteArray count = .ok (ofSplit split) := by
  obtain ⟨last, folded, _⟩ := Option.bind_eq_some_iff.1 (segments?_eq text)
  have parts := @List.range'_append_1 0 count (text.utf8ByteSize - count)
  rw [Nat.add_sub_cancel' enough, ← List.range_eq_range', ← List.range_eq_range'] at parts
  rw [← parts, List.foldlM_append, Option.bind_eq_bind, Option.bind_eq_some_iff] at folded
  obtain ⟨split, before, _⟩ := folded
  have within : ∀ offset ∈ List.range count, offset < text.utf8ByteSize :=
    fun _ member => Nat.lt_of_lt_of_le (List.mem_range.1 member) enough
  exact ⟨split, foldlM_ofSplit within before⟩

end ByteSplit

/-- The pieces of bytes. -/
def segmentBytes (bytes : ByteArray) : Except ByteStop (List ByteSegment) := do
  (← ByteSplit.rounds bytes bytes.size).finish bytes

theorem segmentBytes_eq (text : String) :
    segmentBytes text.toByteArray = .ok ((segments text).map Segment.inBytes) := by
  obtain ⟨last, folded, finished⟩ := Option.bind_eq_some_iff.1 (segments?_eq text)
  have followed : ByteSplit.rounds text.toByteArray text.toByteArray.size =
      .ok (ByteSplit.ofSplit last) := by
    rw [String.size_toByteArray]
    exact ByteSplit.foldlM_ofSplit (fun _ member => List.mem_range.1 member) folded
  rw [segmentBytes, followed, segments, segments?_eq]
  exact ByteSplit.finish_ofSplit finished

/-- Both passes over the bytes of a text read only bytes that are there and cut only between
characters, in every round and with any tags, so that what they hold is always text.  The one
that rebuilds the bytes goes on for exactly as many rounds as the text has bytes, and both end
with what the passes over the text give. -/
theorem byte_passes_safe (tags : Highlighter) (text : String) :
    (∀ count ≤ text.utf8ByteSize, ∃ pass,
      BytePass.rounds tags count (BytePass.start text) = .ok pass ∧
      pass.bytes.IsValidUTF8 ∧
      (pass.isRunning = true ↔ count < text.utf8ByteSize)) ∧
    (∃ last, BytePass.rounds tags text.utf8ByteSize (BytePass.start text) = .ok last ∧
      last.bytes = (tags.format text).toByteArray) ∧
    (∀ count ≤ text.utf8ByteSize, ∃ split,
      ByteSplit.rounds text.toByteArray count = .ok split ∧
      ∀ piece ∈ split.found, piece.bytes.IsValidUTF8) ∧
    segmentBytes text.toByteArray = .ok ((segments text).map Segment.inBytes) := by
  refine ⟨?_, ?_, ?_, segmentBytes_eq text⟩
  · intro count enough
    obtain ⟨pass, _, followed, running⟩ := BytePass.rounds_start tags enough
    exact ⟨_, followed, pass.text.isValidUTF8, running⟩
  · obtain ⟨pass, ran, followed, _⟩ := BytePass.rounds_start tags (Nat.le_refl text.utf8ByteSize)
    refine ⟨_, followed, ?_⟩
    rw [Highlighter.format, Highlighter.format?, ran]
    rfl
  · intro count enough
    obtain ⟨split, followed⟩ := ByteSplit.rounds_of_le enough
    refine ⟨_, followed, ?_⟩
    intro piece member
    obtain ⟨segment, _, rfl⟩ := List.mem_map.1 member
    rw [Segment.bytes_inBytes]
    exact segment.text.isValidUTF8

/-- A closing tag that is itself a bracket, and an opening one that is longer than a byte. -/
theorem byte_passes_safe_smile :
    (4 ≤ "[é] x]".utf8ByteSize ∧ ∃ pass,
      BytePass.rounds ⟨"🙂", "]"⟩ 4 (BytePass.start "[é] x]") = .ok pass ∧
      pass.bytes.IsValidUTF8 ∧ pass.isRunning = true) ∧
    ∃ last, BytePass.rounds ⟨"🙂", "]"⟩ 7 (BytePass.start "[é] x]") = .ok last ∧
      last.bytes = "🙂é] x]".toByteArray := by
  have short : 4 ≤ "[é] x]".utf8ByteSize := by decide
  obtain ⟨everyRound, done, _⟩ := byte_passes_safe ⟨"🙂", "]"⟩ "[é] x]"
  obtain ⟨pass, made, valid, running⟩ := everyRound 4 short
  have formatted : (Highlighter.mk "🙂" "]").format "[é] x]" = "🙂é] x]" := by decide +kernel
  rw [formatted] at done
  exact ⟨⟨short, pass, made, valid, running.2 (by decide)⟩, done⟩

end BranchingStory.Markup
