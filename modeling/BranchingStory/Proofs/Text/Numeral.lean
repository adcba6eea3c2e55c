import BranchingStory.Text.Numeral

/-!
# Numerals read back

The digits of a number stand for the number.  Zeros in front of digits make no difference,
and zeros behind them scale the number.  A run of digits is found again in front of
anything that does not go on with a digit.
-/

namespace BranchingStory.Text

section Runs

variable {belongs : Char → Bool} {run rest : List Char}

theorem takeWhile_run (inside : ∀ char ∈ run, belongs char = true)
    (stops : rest.head?.any belongs = false) : (run ++ rest).takeWhile belongs = run := by
  rw [List.takeWhile_append_of_pos inside]
  cases rest with
  | nil => simp
  | cons next rest =>
      simp only [List.head?_cons, Option.any_some] at stops
      simp [stops]

theorem dropWhile_run (inside : ∀ char ∈ run, belongs char = true)
    (stops : rest.head?.any belongs = false) : (run ++ rest).dropWhile belongs = rest := by
  rw [List.dropWhile_append_of_pos inside]
  cases rest with
  | nil => simp
  | cons next rest =>
      simp only [List.head?_cons, Option.any_some] at stops
      simp [stops]

end Runs

namespace Numeral

theorem ofDigits_eq_ofDigitChars (run : List Char) :
    ofDigits run = Nat.ofDigitChars 10 run 0 := by
  rw [Nat.ofDigitChars_eq_foldl]
  simp only [ofDigits, Nat.mul_comm]

@[simp] theorem ofDigits_digits (value : Nat) : ofDigits (digits value) = value := by
  rw [ofDigits_eq_ofDigitChars, digits, Nat.ofDigitChars_ten_toDigits]

theorem ofDigits_append_zeros (run : List Char) (zeros : Nat) :
    ofDigits (run ++ List.replicate zeros '0') = ofDigits run * Nat.pow 10 zeros := by
  rw [ofDigits_eq_ofDigitChars, Nat.ofDigitChars_append, Nat.ofDigitChars_replicate_zero,
    ← ofDigits_eq_ofDigitChars, Nat.mul_comm]
  rfl

theorem ofDigits_zeros_append (zeros : Nat) (run : List Char) :
    ofDigits (List.replicate zeros '0' ++ run) = ofDigits run := by
  rw [ofDigits_eq_ofDigitChars, Nat.ofDigitChars_append, Nat.ofDigitChars_replicate_zero,
    Nat.mul_zero, ← ofDigits_eq_ofDigitChars]

theorem digits_ne_nil (value : Nat) : digits value ≠ [] := Nat.toDigits_ne_nil

theorem isDigit_of_mem_digits {value : Nat} {char : Char} (member : char ∈ digits value) :
    char.isDigit = true :=
  Nat.isDigit_of_mem_toDigits (by decide) (by decide) member

/-- Only zero begins with a zero. -/
theorem eq_zero_of_head_digits {value : Nat} (leading : (digits value).head? = some '0') :
    value = 0 := by
  unfold digits at leading
  induction value using Nat.strongRecOn with
  | ind value ih =>
      rw [Nat.toDigits_eq_if (by decide)] at leading
      split at leading
      · next small =>
          have named : ∀ digit < 10, digit.digitChar = '0' → digit = 0 := by decide
          exact named value small (Option.some.inj leading)
      · next large =>
          rw [List.head?_append, Option.or_of_isSome (List.isSome_head?.2 Nat.toDigits_ne_nil)]
            at leading
          have quotient := ih (value / 10) (by omega) leading
          omega

end Numeral

end BranchingStory.Text
