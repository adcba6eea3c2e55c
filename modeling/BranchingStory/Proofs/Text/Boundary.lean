import BranchingStory.Text.Slice

/-!
# Cutting bytes

Bare bytes can be read and cut anywhere, so that it has to be asked whether a cut leaves whole
characters: its offsets must stand in order, within the bytes, and where no character goes on.
Where a text can be sliced its bytes can be cut, and the cut gives the bytes of the slice.
-/

namespace BranchingStory.Text

/-- Why work on bytes stops before it has an answer. -/
inductive ByteStop where
  /-- A byte is read that is not there. -/
  | noSuchByte (offset : Nat)
  /-- Bytes are cut where they cannot be. -/
  | noSuchCut (start stop : Nat)
  deriving DecidableEq, Repr

/-- Whether a byte goes on with a character that began before it. -/
def goesOn (byte : UInt8) : Bool := 0x80 ≤ byte && byte < 0xC0

/-- Whether an offset is an end of the bytes or the start of a character. -/
def isBoundary (bytes : ByteArray) (offset : Nat) : Bool :=
  if inside : offset < bytes.size then offset == 0 || !goesOn bytes[offset]
  else offset == bytes.size

/-- Bytes that can be cut between two offsets. -/
structure Cuttable (bytes : ByteArray) (start stop : Nat) : Prop where
  ordered : start ≤ stop
  within : stop ≤ bytes.size
  startsWhole : isBoundary bytes start = true
  endsWhole : isBoundary bytes stop = true

instance (bytes : ByteArray) (start stop : Nat) : Decidable (Cuttable bytes start stop) :=
  decidable_of_iff
    (start ≤ stop ∧ stop ≤ bytes.size ∧ isBoundary bytes start = true ∧
      isBoundary bytes stop = true)
    ⟨fun ⟨ordered, within, starts, ends⟩ => ⟨ordered, within, starts, ends⟩,
      fun cuttable =>
        ⟨cuttable.ordered, cuttable.within, cuttable.startsWhole, cuttable.endsWhole⟩⟩

/-- Reads a byte that has to be there. -/
def readByte (bytes : ByteArray) (offset : Nat) : Except ByteStop UInt8 :=
  if inside : offset < bytes.size then .ok bytes[offset] else .error (.noSuchByte offset)

/-- The bytes between two offsets, where they can be cut. -/
def cutBytes (bytes : ByteArray) (start stop : Nat) : Except ByteStop ByteArray :=
  if Cuttable bytes start stop then .ok (bytes.extract start stop)
  else .error (.noSuchCut start stop)

variable {text piece : String} {start stop offset : Nat}

/-- A byte that begins a character does not go on with one. -/
theorem goesOn_of_first {byte : UInt8} (first : byte.IsUTF8FirstByte) : goesOn byte = false := by
  obtain ⟨bits⟩ := byte
  revert bits
  decide

theorem isBoundary_of_isValid (valid : String.Pos.Raw.IsValid text ⟨offset⟩) :
    isBoundary text.toByteArray offset = true := by
  unfold isBoundary
  rcases String.Pos.Raw.isValid_iff_isUTF8FirstByte.1 valid with atEnd | ⟨inside, first⟩
  · have size : offset = text.toByteArray.size := congrArg String.Pos.Raw.byteIdx atEnd
    rw [dif_neg (by omega), size, beq_self_eq_true]
  · have within : offset < text.toByteArray.size := inside
    rw [dif_pos within]
    have whole := goesOn_of_first first
    rw [String.getUTF8Byte_eq_getElem] at whole
    simp [whole]

theorem readByte_of_byteAt? {byte : UInt8} (found : byteAt? text offset = some byte) :
    readByte text.toByteArray offset = .ok byte := by
  unfold byteAt? at found
  split at found
  · next inside =>
      have within : offset < text.toByteArray.size := inside
      cases found
      rw [readByte, dif_pos within]
      rfl
  · contradiction

/-- A slice is what stands between two boundaries. -/
theorem slice?_eq_some (sliced : slice? text start stop = some piece) :
    Cuttable text.toByteArray start stop ∧
      piece.toByteArray = text.toByteArray.extract start stop := by
  unfold slice? at sliced
  split at sliced
  · next cut =>
      obtain ⟨starts, ends, ordered⟩ := cut
      cases sliced
      have within : stop ≤ text.toByteArray.size := ends.le_rawEndPos
      exact ⟨⟨ordered, within, isBoundary_of_isValid starts, isBoundary_of_isValid ends⟩,
        String.toByteArray_extract⟩
  · contradiction

theorem cutBytes_of_slice? (sliced : slice? text start stop = some piece) :
    cutBytes text.toByteArray start stop = .ok piece.toByteArray := by
  obtain ⟨cuttable, bytes⟩ := slice?_eq_some sliced
  rw [cutBytes, if_pos cuttable, bytes]

theorem size_of_slice? (sliced : slice? text start stop = some piece) :
    start + piece.utf8ByteSize = stop := by
  obtain ⟨⟨ordered, within, _, _⟩, bytes⟩ := slice?_eq_some sliced
  rw [← String.size_toByteArray, bytes, ByteArray.size_extract]
  omega

end BranchingStory.Text
