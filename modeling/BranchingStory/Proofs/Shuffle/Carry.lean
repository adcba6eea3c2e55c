import Mathlib.Data.Nat.Bitwise

/-!
# The bits that a carry changes

Adding one to a number inverts its lowest bits, up to the first that is not set, and no
others.  Inverting the lowest bits of a number in turn adds what they can hold at most, less
twice what they hold.
-/

namespace BranchingStory.Shuffle

/-- A number is known from its lowest bit and what the others stand for. -/
theorem eq_of_half {number half low : Nat} (upper : number / 2 = half)
    (lowest : number % 2 = low) : number = 2 * half + low := by
  rw [← upper, ← lowest, Nat.div_add_mod]

/-- A number and the next one differ in the lowest bits of the number that are set and in the
first one that is not. -/
theorem exists_xor_succ (number : Nat) :
    ∃ low, number % 2 ^ (low + 1) = 2 ^ low - 1 ∧
      number ^^^ (number + 1) = 2 ^ (low + 1) - 1 := by
  induction number using Nat.strong_induction_on with
  | _ number ih =>
      have lowest : (number ^^^ (number + 1)) % 2 = 1 := by
        rw [Nat.xor_mod_two_eq]
        omega
      rcases Nat.mod_two_eq_zero_or_one number with even | odd
      · have halves : (number + 1) / 2 = number / 2 := by omega
        have upper : (number ^^^ (number + 1)) / 2 = 0 := by
          rw [Nat.xor_div_two, halves, Nat.xor_self]
        exact ⟨0, even, eq_of_half upper lowest⟩
      · have halves : (number + 1) / 2 = number / 2 + 1 := by omega
        obtain ⟨low, ending, differing⟩ := ih (number / 2) (by omega)
        have upper : (number ^^^ (number + 1)) / 2 = 2 ^ (low + 1) - 1 := by
          rw [Nat.xor_div_two, halves, differing]
        have whole := Nat.mod_mul (x := number) (a := 2) (b := 2 ^ (low + 1))
        have positive := Nat.two_pow_pos low
        refine ⟨low + 1, ?_, ?_⟩
        · rw [Nat.pow_succ', whole, ending, odd]
          omega
        · rw [eq_of_half upper lowest]
          omega

/-- What a number becomes when its lowest bits are inverted. -/
theorem xor_two_pow_sub_one (number count : Nat) :
    (number ^^^ (2 ^ count - 1)) + 2 * (number % 2 ^ count) = number + (2 ^ count - 1) := by
  induction count generalizing number with
  | zero => rw [Nat.pow_zero, Nat.sub_self, Nat.xor_zero, Nat.mod_one]
  | succ count ih =>
      have positive := Nat.two_pow_pos count
      have double : 2 ^ (count + 1) = 2 * 2 ^ count := Nat.pow_succ'
      have halves : (2 * 2 ^ count - 1) / 2 = 2 ^ count - 1 := by omega
      have upper := Nat.xor_div_two (a := number) (b := 2 * 2 ^ count - 1)
      have lowest := Nat.xor_mod_two_eq (m := number) (n := 2 * 2 ^ count - 1)
      have whole := Nat.mod_mul (x := number) (a := 2) (b := 2 ^ count)
      have inner := ih (number / 2)
      rw [halves] at upper
      rw [double]
      omega

end BranchingStory.Shuffle
