import BranchingStory.Text.Slice

/-!
# Bytes of characters

A character that takes one byte is that byte, and no byte of another character equals it:
the bytes of longer characters all have their highest bit set.  So a byte that is searched
for stands at a boundary between characters wherever it is found.
-/

namespace BranchingStory.Text

variable {before middle after : String} {c d : Char} {index : Nat}

/-- The bytes of a text inside one of its characters are among those that encode it. -/
theorem byteAt?_char (inside : index < c.utf8Size) :
    ∃ byte ∈ String.utf8EncodeChar c,
      byteAt? (before ++ (String.singleton c ++ after)) (before.utf8ByteSize + index) =
        some byte := by
  have size : (before ++ (String.singleton c ++ after)).utf8ByteSize =
      before.utf8ByteSize + (c.utf8Size + after.utf8ByteSize) := by
    simp only [String.utf8ByteSize_append, String.utf8ByteSize_singleton]
  have within : before.utf8ByteSize + index <
      (before ++ (String.singleton c ++ after)).utf8ByteSize := by
    omega
  have encoded : index < (String.utf8EncodeChar c).length := by
    rw [String.length_utf8EncodeChar]
    exact inside
  refine ⟨(String.utf8EncodeChar c)[index], List.getElem_mem encoded, ?_⟩
  unfold byteAt?
  rw [dif_pos within]
  congr 1
  simp only [String.getUTF8Byte_eq_getElem, String.toByteArray_append,
    String.toByteArray_singleton, List.utf8Encode_singleton]
  rw [ByteArray.getElem_append_right (by simp [String.size_toByteArray])]
  rw [ByteArray.getElem_append_left (by simp [String.size_toByteArray, inside])]
  simp [String.size_toByteArray, List.getElem_toByteArray]

/-- A character that takes one byte is that byte. -/
theorem byteAt?_of_size_one (short : c.utf8Size = 1) :
    byteAt? (before ++ (String.singleton c ++ after)) before.utf8ByteSize =
      some c.val.toUInt8 := by
  have inside : 0 < c.utf8Size := by omega
  obtain ⟨byte, member, found⟩ := @byteAt?_char before after c 0 inside
  rw [String.utf8EncodeChar_eq_singleton short, List.mem_singleton] at member
  rw [← member]
  exact found

theorem le_or_of_le {low : Nat} (byte mark : UInt8) (marked : low ≤ mark.toNat) :
    low ≤ (byte ||| mark).toNat := by
  rw [UInt8.toNat_or]
  exact Nat.le_trans marked Nat.right_le_or

/-- All bytes of a character that takes more than one have their highest bit set. -/
theorem le_of_mem_utf8EncodeChar (long : 1 < c.utf8Size) {byte : UInt8}
    (member : byte ∈ String.utf8EncodeChar c) : 128 ≤ byte.toNat := by
  rcases c.utf8Size_eq with one | two | three | four
  · omega
  · rw [String.utf8EncodeChar_eq_cons_cons two] at member
    simp only [List.mem_cons, List.not_mem_nil, or_false] at member
    rcases member with rfl | rfl <;> exact le_or_of_le _ _ (by decide)
  · rw [String.utf8EncodeChar_eq_cons_cons_cons three] at member
    simp only [List.mem_cons, List.not_mem_nil, or_false] at member
    rcases member with rfl | rfl | rfl <;> exact le_or_of_le _ _ (by decide)
  · rw [String.utf8EncodeChar_eq_cons_cons_cons_cons four] at member
    simp only [List.mem_cons, List.not_mem_nil, or_false] at member
    rcases member with rfl | rfl | rfl | rfl <;> exact le_or_of_le _ _ (by decide)

theorem toNat_of_size_one (short : c.utf8Size = 1) :
    c.val.toUInt8.toNat = c.val.toNat ∧ c.val.toNat < 128 := by
  have small : c.val.toNat ≤ 127 := by
    simpa [UInt32.le_iff_toNat_le] using Char.utf8Size_eq_one_iff.1 short
  refine ⟨?_, by omega⟩
  simp only [UInt32.toNat_toUInt8]
  omega

/-- No byte of a character is another character that takes one byte. -/
theorem ne_of_mem_utf8EncodeChar (short : d.utf8Size = 1) (different : c ≠ d) {byte : UInt8}
    (member : byte ∈ String.utf8EncodeChar c) : byte ≠ d.val.toUInt8 := by
  obtain ⟨dByte, dSmall⟩ := toNat_of_size_one short
  intro same
  by_cases long : 1 < c.utf8Size
  · have high := le_of_mem_utf8EncodeChar long member
    rw [same] at high
    omega
  · have cShort : c.utf8Size = 1 := by
      have positive := c.utf8Size_pos
      omega
    obtain ⟨cByte, _⟩ := toNat_of_size_one cShort
    rw [String.utf8EncodeChar_eq_singleton cShort, List.mem_singleton] at member
    apply different
    apply Char.ext
    apply UInt32.toNat.inj
    rw [← cByte, ← dByte, ← member, same]

/-- The part of a text between two others can be cut out. -/
theorem slice?_of_parts (before after : String) {text : String} {start stop : Nat}
    (parts : text = before ++ (middle ++ after)) (first : start = before.utf8ByteSize)
    (last : stop = start + middle.utf8ByteSize) : slice? text start stop = some middle := by
  rw [parts, last, first, ← String.append_assoc]
  exact slice?_append before middle after

end BranchingStory.Text
