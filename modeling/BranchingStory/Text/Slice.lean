/-!
# Slices by byte offset

A text is addressed by the offsets of the bytes that encode it. Cutting it between two
offsets only makes sense when both are boundaries between characters and stand in
order; every other cut is refused. `slice?_append` says that the boundaries of a
concatenation are where its parts meet.
-/

namespace BranchingStory.Text

/-- The byte at an offset, if the text is longer than that. -/
def byteAt? (text : String) (offset : Nat) : Option UInt8 :=
  if inside : offset < text.utf8ByteSize then some (text.getUTF8Byte ⟨offset⟩ inside)
  else none

/-- The part of a text between two offsets, if it can be cut there. -/
def slice? (text : String) (start stop : Nat) : Option String :=
  if cut : String.Pos.Raw.IsValid text ⟨start⟩ ∧ String.Pos.Raw.IsValid text ⟨stop⟩ ∧
      start ≤ stop then
    some (text.extract ⟨⟨start⟩, cut.1⟩ ⟨⟨stop⟩, cut.2.1⟩)
  else
    none

theorem slice?_append (before middle after : String) :
    slice? (before ++ middle ++ after) before.utf8ByteSize
        (before.utf8ByteSize + middle.utf8ByteSize) = some middle := by
  have start : String.Pos.Raw.IsValid (before ++ middle ++ after)
      ⟨before.utf8ByteSize⟩ :=
    String.Pos.Raw.isValid_iff_exists_append.2
      ⟨before, middle ++ after, String.append_assoc .., rfl⟩
  have stop : String.Pos.Raw.IsValid (before ++ middle ++ after)
      ⟨before.utf8ByteSize + middle.utf8ByteSize⟩ :=
    String.Pos.Raw.isValid_iff_exists_append.2
      ⟨before ++ middle, after, rfl, by
        apply String.Pos.Raw.ext
        simp [String.utf8ByteSize_append]⟩
  unfold slice?
  rw [dif_pos ⟨start, stop, Nat.le_add_right _ _⟩]
  congr 1
  apply String.toByteArray_inj.1
  simp only [String.extract, String.toByteArray_append]
  rw [ByteArray.append_assoc, ← String.size_toByteArray, ← String.size_toByteArray]
  calc (before.toByteArray ++ (middle.toByteArray ++ after.toByteArray)).extract
        (before.toByteArray.size + 0) (before.toByteArray.size + middle.toByteArray.size)
      = (middle.toByteArray ++ after.toByteArray).extract 0 middle.toByteArray.size :=
        ByteArray.extract_append_size_add
    _ = middle.toByteArray := ByteArray.extract_append_eq_left rfl

end BranchingStory.Text
