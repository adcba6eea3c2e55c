import BranchingStory.Text.Quoted

/-!
# Quoted text read back

Every character is read from its own encoding, whatever follows: as it is, behind a
backslash as the letter that stands for it, or as the digits of its code point.
-/

namespace BranchingStory.Text.Quoted

variable {char : Char} {rest : List Char}

/-- One character further inside an escape or of plain text. -/
theorem decodeFrom_cons {pending after : Pending} {completed : Option Char}
    (goesOn : pending = .plain → char ≠ '"')
    (step : pending.step char = some (completed, after)) :
    decodeFrom pending (char :: rest) =
      (decodeFrom after rest).map fun (text, rest) => (completed.toList ++ text, rest) := by
  rw [decodeFrom, if_neg (by rintro ⟨plain, quote⟩; exact goesOn plain quote), step]
  simp only [Option.bind_eq_bind, Option.bind_some]
  cases decodeFrom after rest <;> rfl

/-- One character that completes nothing. -/
theorem decodeFrom_cons_none {pending after : Pending}
    (goesOn : pending = .plain → char ≠ '"')
    (step : pending.step char = some (none, after)) :
    decodeFrom pending (char :: rest) = decodeFrom after rest := by
  rw [decodeFrom_cons goesOn step]
  cases decodeFrom after rest <;> rfl

theorem hexValue?_digitChar {digit : Nat} (small : digit < 16) :
    hexValue? digit.digitChar = some digit := by
  revert digit
  decide

theorem ofCodePoint?_toNat (char : Char) : ofCodePoint? char.toNat = some char := by
  rw [ofCodePoint?, if_pos (show char.toNat.isValidChar from char.valid), Char.ofNat_toNat]

theorem codePoint_digit {count value digit : Nat} (small : digit < 16) (few : count < 6) :
    (Pending.codePoint count value).step digit.digitChar =
      some (none, .codePoint (count + 1) (value * 16 + digit)) := by
  have notClosing : digit.digitChar ≠ '}' := by
    revert digit
    decide
  rw [Pending.step, if_neg notClosing, if_neg (by omega), hexValue?_digitChar small]
  rfl

/-- The digits of a code point are collected. -/
theorem decodeFrom_digits {code : Nat} (few : (Nat.toDigits 16 code).length ≤ 6) :
    decodeFrom (.codePoint 0 0) (Nat.toDigits 16 code ++ rest) =
      decodeFrom (.codePoint (Nat.toDigits 16 code).length code) rest := by
  induction code using Nat.strongRecOn generalizing rest with
  | ind code ih =>
      rw [Nat.toDigits_eq_if (by decide)] at few ⊢
      split at few
      · next small =>
          rw [if_pos small, List.singleton_append,
            decodeFrom_cons_none (by simp) (codePoint_digit small (by decide)), Nat.zero_mul,
            Nat.zero_add, Nat.zero_add]
          rfl
      · next large =>
          rw [if_neg large]
          rw [List.length_append, List.length_singleton] at few ⊢
          rw [List.append_assoc, List.singleton_append,
            ih (code / 16) (by omega) (by omega),
            decodeFrom_cons_none (by simp)
              (codePoint_digit (Nat.mod_lt _ (by decide)) (by omega)),
            Nat.div_add_mod']

theorem length_codePoint_le (char : Char) : (Nat.toDigits 16 char.toNat).length ≤ 6 := by
  have valid : char.toNat.isValidChar := char.valid
  rw [Nat.length_toDigits_le_iff (by decide) (by decide)]
  rcases valid with low | ⟨_, high⟩
  · exact Nat.lt_trans low (by decide)
  · exact Nat.lt_trans high (by decide)

theorem decodeFrom_codePoint (char : Char) :
    decodeFrom .plain (encodeCodePoint char ++ rest) =
      (decodeFrom .plain rest).map fun (text, rest) => (char :: text, rest) := by
  have some : (Nat.toDigits 16 char.toNat).length ≠ 0 := by
    rw [ne_eq, List.length_eq_zero_iff]
    exact Nat.toDigits_ne_nil
  have closing : (Pending.codePoint (Nat.toDigits 16 char.toNat).length char.toNat).step '}' =
      .some (.some char, .plain) := by
    rw [Pending.step, if_pos rfl, if_neg some, ofCodePoint?_toNat]
    rfl
  rw [encodeCodePoint, List.cons_append, List.cons_append, List.cons_append, List.append_assoc,
    decodeFrom_cons_none (by decide) rfl, decodeFrom_cons_none (by simp) rfl,
    decodeFrom_cons_none (by simp) rfl, decodeFrom_digits (length_codePoint_le char),
    List.singleton_append, decodeFrom_cons (by simp) closing]
  rfl

theorem decodeFrom_encodeChar (char : Char) :
    decodeFrom .plain (encodeChar char ++ rest) =
      (decodeFrom .plain rest).map fun (text, rest) => (char :: text, rest) := by
  unfold encodeChar
  split
  · next letter named =>
      have known := ofLetter?_letter? named
      have notHex : letter ≠ 'x' := by
        rintro rfl
        contradiction
      have notCode : letter ≠ 'u' := by
        rintro rfl
        contradiction
      have step : Pending.backslash.step letter = some (some char, .plain) := by
        rw [Pending.step, if_neg notHex, if_neg notCode, known]
        rfl
      rw [List.cons_append, List.cons_append, decodeFrom_cons_none (by decide) rfl,
        decodeFrom_cons (by simp) step]
      rfl
  · next unnamed =>
      split
      · have notQuote : char ≠ '"' := by
          rintro rfl
          contradiction
        have notBackslash : char ≠ '\\' := by
          rintro rfl
          contradiction
        have step : Pending.plain.step char = some (some char, .plain) := by
          rw [Pending.step, if_neg notBackslash]
        rw [List.singleton_append, decodeFrom_cons (fun _ => notQuote) step]
        rfl
      · exact decodeFrom_codePoint char

/-- What is written between quotes is read up to the closing one. -/
theorem decode_encodeAll (text : List Char) (rest : List Char) :
    decode (encodeAll text ++ '"' :: rest) = some (text, rest) := by
  unfold decode
  induction text with
  | nil => rfl
  | cons char text ih =>
      rw [encodeAll, List.flatMap_cons, List.append_assoc, decodeFrom_encodeChar, ← encodeAll, ih]
      rfl

end BranchingStory.Text.Quoted
