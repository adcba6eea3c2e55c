import BranchingStory.Shuffle.Stream

/-!
# Random order

A uniform number below a bound is drawn by scaling a word to the bound; words whose
scaled fraction would favour some numbers are passed over. A list is brought into
random order by exchanging each entry, from the last to the second, with one drawn
among those not behind it. The type of a drawn number says that it is below the bound.
-/

namespace BranchingStory.Shuffle

/-- The words after which a stream repeats: sixteen for each 64-bit block counter. -/
def period : Nat := 16 * UInt64.size

/-- The greatest fraction of a scaled word that is accepted: with it, every number below
the bound is met by equally many words. -/
def acceptance (bound : Nat) : Nat := bound <<< (31 - bound.log2) - 1

/-- A word scaled to a bound stays below it. -/
theorem scaled_lt (word : UInt32) {bound : Nat} (positive : 0 < bound) :
    word.toNat * bound / UInt32.size < bound := by
  rw [Nat.div_lt_iff_lt_mul (by decide), Nat.mul_comm bound]
  exact Nat.mul_lt_mul_of_pos_right word.toNat_lt positive

/-- Draws a number below a bound from the words at a position and after it, and gives
the position behind the word it was drawn from. The number of words looked at is
limited; when no word up to the limit is accepted the number is zero. -/
def draw (stream : Stream) (bound : Nat) (positive : 0 < bound) :
    (limit : Nat) → (position : Nat) → Fin bound × Nat
  | 0, position => (⟨0, positive⟩, position)
  | limit + 1, position =>
      let word := stream position
      if word.toNat * bound % UInt32.size ≤ acceptance bound then
        (⟨word.toNat * bound / UInt32.size, scaled_lt word positive⟩, position + 1)
      else
        draw stream bound positive limit (position + 1)

/-- Exchanges the entries up to an index, from there down to the second, each with one
drawn among the entries not behind it. -/
def exchange (stream : Stream) : (last : Nat) → (position : Nat) → Array Nat → Array Nat
  | 0, _, order => order
  | last + 1, position, order =>
      let (chosen, position) :=
        draw stream (last + 2) (Nat.succ_pos _) period position
      exchange stream last position (order.swapIfInBounds (last + 1) chosen)

/-- The numbers below a count in the random order of a stream. -/
def order (stream : Stream) (count : Nat) : List Nat :=
  (exchange stream (count - 1) 0 (Array.range count)).toList

end BranchingStory.Shuffle
