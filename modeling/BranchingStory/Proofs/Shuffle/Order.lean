import BranchingStory.Shuffle.Order

/-!
# A random order is an order

Exchanging entries neither loses nor repeats one.  Every number is drawn below its bound,
so whatever words a stream has, the order that it gives names each index once.
-/

namespace BranchingStory.Shuffle

theorem swapIfInBounds_perm (order : Array Nat) (first second : Nat) :
    (order.swapIfInBounds first second).toList.Perm order.toList := by
  unfold Array.swapIfInBounds
  split
  · split
    · exact (Array.swap_perm _ _).toList
    · exact .refl _
  · exact .refl _

theorem exchange_zero (stream : Stream) (position : Nat) (order : Array Nat) :
    exchange stream 0 position order = order := by rfl

/-- One exchange, and then those below it. -/
theorem exchange_succ (stream : Stream) (last position : Nat) (order : Array Nat) :
    exchange stream (last + 1) position order =
      let drawn := draw stream (last + 2) (Nat.succ_pos _) period position
      exchange stream last drawn.2 (order.swapIfInBounds (last + 1) drawn.1) := by rfl

theorem exchange_perm (stream : Stream) (last position : Nat) (order : Array Nat) :
    (exchange stream last position order).toList.Perm order.toList := by
  induction last generalizing position order with
  | zero =>
      rw [exchange_zero]
  | succ last ih =>
      rw [exchange_succ]
      exact (ih _ _).trans (swapIfInBounds_perm order _ _)

/-- The random order of any stream names every index below the count once. -/
theorem order_perm (stream : Stream) (count : Nat) :
    (order stream count).Perm (List.range count) := by
  have exchanged := exchange_perm stream (count - 1) 0 (Array.range count)
  rwa [Array.toList_range] at exchanged

end BranchingStory.Shuffle
