import Mathlib.Data.List.Nodup
import BranchingStory.Proofs.Event.Draws
import BranchingStory.Proofs.Shuffle.Carry

/-!
# Seeds of random orders

The seed of a random order mixes the seed of the playthrough with the number of orders used
before it.  The number is multiplied by an odd constant, which can be undone, so within one
playthrough no seed comes back before the count of orders begins anew.  Between neighbouring
playthroughs the mixing falls short: the seed of one order is the seed of the order before it
in the next playthrough for eight pairs of a seed and a count.
-/

namespace BranchingStory

namespace ShuffleState

/-- The number that undoes a multiplication by the mixer. -/
def unmixer : UInt64 := 0xF1DE83E19937733D

variable {seed draws other : UInt64}

theorem orderSeed_eq (seed draws : UInt64) :
    (⟨seed, draws⟩ : ShuffleState).orderSeed = seed ^^^ draws * mixer := by rfl

/-- A product with the mixer tells the other factor. -/
theorem eq_mul_unmixer {product : UInt64} (mixed : draws * mixer = product) :
    draws = product * unmixer := by
  have undone : mixer * unmixer = 1 := by decide
  rw [← mixed, UInt64.mul_assoc, undone, UInt64.mul_one]

theorem orderSeed_injective (seed : UInt64) :
    Function.Injective fun draws => (⟨seed, draws⟩ : ShuffleState).orderSeed := by
  intro draws other same
  have mixed : draws * mixer = other * mixer := (UInt64.xor_right_inj seed).1 same
  rw [eq_mul_unmixer mixed, ← eq_mul_unmixer rfl]

/-- Under a given seed every number of 64 bits is the seed of one order. -/
theorem orderSeed_bijective (seed : UInt64) :
    Function.Bijective fun draws => (⟨seed, draws⟩ : ShuffleState).orderSeed := by
  refine ⟨orderSeed_injective seed, fun target => ⟨(seed ^^^ target) * unmixer, ?_⟩⟩
  have undone : unmixer * mixer = 1 := by decide
  show (⟨seed, _⟩ : ShuffleState).orderSeed = target
  rw [orderSeed_eq, UInt64.mul_assoc, undone, UInt64.mul_one, ← UInt64.xor_assoc,
    UInt64.xor_self, UInt64.zero_xor]

/-! ## Orders used one after another -/

theorem skip_draws_eq_iff {first second : Nat} (shuffle : ShuffleState)
    (firstSmall : first < UInt64.size) (secondSmall : second < UInt64.size) :
    (shuffle.skip first).draws = (shuffle.skip second).draws ↔ first = second := by
  rw [← UInt64.toNat_inj, skip_draws, skip_draws]
  simp only [UInt64.size] at firstSmall secondSmall ⊢
  omega

/-- Of all orders before the count begins anew exactly one has a given count. -/
theorem existsUnique_skip (shuffle : ShuffleState) (draws : UInt64) :
    ∃! count, count < UInt64.size ∧ (shuffle.skip count).draws = draws := by
  have small := shuffle.draws.toNat_lt
  have bounded := draws.toNat_lt
  refine ⟨(draws.toNat + UInt64.size - shuffle.draws.toNat) % UInt64.size, ⟨?_, ?_⟩, ?_⟩
  · exact Nat.mod_lt _ (by decide)
  · apply UInt64.toNat_inj.1
    rw [skip_draws]
    simp only [UInt64.size]
    omega
  · rintro count ⟨within, reached⟩
    have counted := congrArg UInt64.toNat reached
    rw [skip_draws] at counted
    simp only [UInt64.size] at within counted ⊢
    omega

/-- After as many orders as there are numbers of 64 bits all is as it was. -/
theorem skip_size (shuffle : ShuffleState) : shuffle.skip UInt64.size = shuffle := by
  have draws : (shuffle.skip UInt64.size).draws = shuffle.draws := by
    apply UInt64.toNat_inj.1
    rw [skip_draws, Nat.add_mod_right, Nat.mod_eq_of_lt shuffle.draws.toNat_lt]
  have seed := shuffle.skip_seed UInt64.size
  cases shuffle
  cases skipped : skip _ UInt64.size
  rw [skipped] at seed draws
  cases seed
  cases draws
  rfl

theorem orderSeed_skip (shuffle : ShuffleState) (count : Nat) :
    (shuffle.skip count).orderSeed =
      (⟨shuffle.seed, (shuffle.skip count).draws⟩ : ShuffleState).orderSeed := by
  rw [orderSeed, skip_seed, orderSeed]

/-- Before the count begins anew no two orders have the same seed. -/
theorem orderSeed_skip_inj {first second : Nat} (shuffle : ShuffleState)
    (firstSmall : first < UInt64.size) (secondSmall : second < UInt64.size)
    (same : (shuffle.skip first).orderSeed = (shuffle.skip second).orderSeed) :
    first = second := by
  rw [orderSeed_skip, orderSeed_skip] at same
  exact (shuffle.skip_draws_eq_iff firstSmall secondSmall).1
    (orderSeed_injective shuffle.seed same)

/-! ## Neighbouring playthroughs -/

/-- The orders whose seed is the seed of the order before in the playthrough with the next
seed. -/
def crossings : List ShuffleState :=
  [⟨0x3FFFFFFFFFFFFFFF, 0x4710BE0F33644661⟩, ⟨0x3FFFFFFFFFFFFFFF, 0xC710BE0F33644661⟩,
    ⟨0xBFFFFFFFFFFFFFFF, 0x4710BE0F33644661⟩, ⟨0xBFFFFFFFFFFFFFFF, 0xC710BE0F33644661⟩,
    ⟨0x7FFFFFFFFFFFFFFF, 0x0710BE0F33644661⟩, ⟨0x7FFFFFFFFFFFFFFF, 0x8710BE0F33644661⟩,
    ⟨0xFFFFFFFFFFFFFFFF, 0x0710BE0F33644661⟩, ⟨0xFFFFFFFFFFFFFFFF, 0x8710BE0F33644661⟩]

/-- An exclusive or tells one of its parts from the other. -/
theorem eq_xor_of_xor_eq {a b c d : UInt64} (same : a ^^^ b = c ^^^ d) :
    b = d ^^^ (a ^^^ c) :=
  calc b = a ^^^ (a ^^^ b) := by rw [← UInt64.xor_assoc, UInt64.xor_self, UInt64.zero_xor]
    _ = a ^^^ (c ^^^ d) := by rw [same]
    _ = d ^^^ (a ^^^ c) := by ac_rfl

/-- A seed and the next one differ in their lowest bits, or in all of them. -/
theorem exists_xor_add_one (seed : UInt64) :
    ∃ low ≤ 64, seed.toNat % 2 ^ (low + 1) = 2 ^ low - 1 ∧
      (seed ^^^ (seed + 1)).toNat = 2 ^ min (low + 1) 64 - 1 := by
  obtain ⟨low, ending, differing⟩ := Shuffle.exists_xor_succ seed.toNat
  have wrapped : (seed ^^^ (seed + 1)).toNat = (seed.toNat ^^^ (seed.toNat + 1)) % 2 ^ 64 := by
    rw [UInt64.toNat_xor, UInt64.toNat_add, Nat.xor_mod_two_pow, Nat.mod_eq_of_lt seed.toNat_lt]
    rfl
  have within : low ≤ 64 := by
    apply Nat.le_of_not_lt
    intro long
    have power : 2 ^ 65 ≤ 2 ^ low := Nat.pow_le_pow_right (by decide) long
    have least := Nat.mod_le seed.toNat (2 ^ (low + 1))
    have bounded := seed.toNat_lt
    omega
  refine ⟨low, within, ending, ?_⟩
  rw [wrapped, differing]
  rcases Nat.lt_or_eq_of_le within with short | rfl
  · have power : 2 ^ (low + 1) ≤ 2 ^ 64 := Nat.pow_le_pow_right (by decide) short
    have positive := Nat.two_pow_pos (low + 1)
    rw [Nat.min_eq_left short, Nat.mod_eq_of_lt (by omega)]
  · rfl

/-- A product with the mixer and the product one order later differ in their lowest bits only
if these are the lowest 63 or all 64. -/
theorem mixed_step {product count : Nat} (few : count ≤ 64)
    (stepped : (product + mixer.toNat) % 2 ^ 64 = product ^^^ (2 ^ count - 1)) :
    count = 63 ∧ product % 2 ^ 63 = 0x70E44323405AC1F5 ∨
    count = 64 ∧ product % 2 ^ 63 = 0x30E44323405AC1F5 := by
  have flipped := Shuffle.xor_two_pow_sub_one product count
  rw [← stepped] at flipped
  simp only [mixer, UInt64.reduceToNat] at flipped
  have most : count ≤ 62 ∨ count = 63 ∨ count = 64 := by omega
  rcases most with short | rfl | rfl
  · have positive := Nat.two_pow_pos count
    have limit : 2 ^ count ≤ 2 ^ 62 := Nat.pow_le_pow_right (by decide) short
    have below : product % 2 ^ count < 2 ^ count := Nat.mod_lt _ positive
    omega
  · left
    omega
  · right
    omega

/-- All but the highest bit of a word leave two words. -/
theorem eq_or_eq_of_mod {word : UInt64} (low : UInt64)
    (ending : word.toNat % 2 ^ 63 = low.toNat) :
    word = low ∨ word = low + 0x8000000000000000 := by
  have bounded := word.toNat_lt
  have highest : (0x8000000000000000 : UInt64).toNat = 2 ^ 63 := rfl
  rcases Nat.lt_or_ge word.toNat (2 ^ 63) with small | large
  · left
    rw [Nat.mod_eq_of_lt small] at ending
    exact UInt64.toNat_inj.1 ending
  · right
    apply UInt64.toNat_inj.1
    rw [UInt64.toNat_add, highest]
    omega

theorem mem_crossings {seed draws : UInt64}
    (crossed : seed.toNat % 2 ^ 63 = 0x3FFFFFFFFFFFFFFF ∧
        (draws * mixer).toNat % 2 ^ 63 = 0x70E44323405AC1F5 ∨
      seed.toNat % 2 ^ 63 = 0x7FFFFFFFFFFFFFFF ∧
        (draws * mixer).toNat % 2 ^ 63 = 0x30E44323405AC1F5) :
    (⟨seed, draws⟩ : ShuffleState) ∈ crossings := by
  rcases crossed with ⟨ofSeed, ofProduct⟩ | ⟨ofSeed, ofProduct⟩
  · have seeds := eq_or_eq_of_mod 0x3FFFFFFFFFFFFFFF ofSeed
    have products := eq_or_eq_of_mod 0x70E44323405AC1F5 ofProduct
    rcases seeds with rfl | rfl <;> rcases products with product | product <;>
      rw [eq_mul_unmixer product] <;> decide
  · have seeds := eq_or_eq_of_mod 0x7FFFFFFFFFFFFFFF ofSeed
    have products := eq_or_eq_of_mod 0x30E44323405AC1F5 ofProduct
    rcases seeds with rfl | rfl <;> rcases products with product | product <;>
      rw [eq_mul_unmixer product] <;> decide

/-- The seed of the next order differs from the seed of the order that is next in the
playthrough with the next seed, except at the crossings: eight of all pairs of a seed and a
count. -/
theorem orderSeed_next_iff (shuffle : ShuffleState) :
    shuffle.next.orderSeed = (⟨shuffle.seed + 1, shuffle.draws⟩ : ShuffleState).orderSeed ↔
      shuffle ∈ crossings := by
  obtain ⟨seed, draws⟩ := shuffle
  constructor
  · intro same
    obtain ⟨low, within, ending, differing⟩ := exists_xor_add_one seed
    rw [next, orderSeed_eq, orderSeed_eq, UInt64.succ_mul] at same
    have stepped := congrArg UInt64.toNat (eq_xor_of_xor_eq same)
    rw [UInt64.toNat_add, UInt64.toNat_xor, differing] at stepped
    apply mem_crossings
    rcases mixed_step (Nat.min_le_right _ _) stepped with ⟨changed, product⟩ | ⟨changed, product⟩
    · left
      obtain rfl : low = 62 := by omega
      exact ⟨ending, product⟩
    · right
      have most : low = 63 ∨ low = 64 := by omega
      refine ⟨?_, product⟩
      rcases most with rfl | rfl <;> omega
  · generalize (⟨seed, draws⟩ : ShuffleState) = shuffle
    revert shuffle
    decide

/-- The next order at a crossing has the same seed as the one in the next playthrough. -/
theorem orderSeed_next_crossing :
    (⟨0x3FFFFFFFFFFFFFFF, 0x4710BE0F33644661 + 1⟩ : ShuffleState).orderSeed =
      (⟨0x3FFFFFFFFFFFFFFF + 1, 0x4710BE0F33644661⟩ : ShuffleState).orderSeed := by
  decide

end ShuffleState

/-! ## Playthroughs -/

/-- An event that has fired in random order. -/
structure Firing (σ : Type) where
  event : Event σ
  report : EventReport
  /-- The seed of its order. -/
  seed : UInt64

variable {σ : Type} [PlayerState σ]

namespace ShuffleState

/-- The events that fire in random order when events are applied one after another, each in a
state that may be any. -/
def firings (shuffle : ShuffleState) : List (Event σ × σ) → List (Firing σ)
  | [] => []
  | (event, state) :: later =>
      match event.apply shuffle state with
      | (.ok report, after, _) =>
          if event.FiredAtRandom report then
            ⟨event, report, shuffle.orderSeed⟩ :: after.firings later
          else
            after.firings later
      | (.error _, after, _) => after.firings later

/-- Every one of these events has the seed of its own order, in turn. -/
theorem firings_cases (shuffle : ShuffleState) (event : Event σ) (state : σ)
    (later : List (Event σ × σ)) :
    (∃ report, report.applied = Shuffle.order (.ofSeed shuffle.orderSeed) event.effects.length ∧
      shuffle.firings ((event, state) :: later) =
        ⟨event, report, shuffle.orderSeed⟩ :: shuffle.next.firings later) ∨
    shuffle.firings ((event, state) :: later) = shuffle.firings later := by
  rw [firings]
  rcases answered : event.apply shuffle state with ⟨answer, after, changed⟩
  have first : (event.apply shuffle state).1 = answer := by rw [answered]
  have second : (event.apply shuffle state).2.1 = after := by rw [answered]
  cases answer with
  | error error =>
      right
      rw [← second, Event.apply_of_not_firedAtRandom (by simp [first])]
  | ok report =>
      by_cases fired : event.FiredAtRandom report
      · left
        obtain ⟨applied, used⟩ := Event.apply_of_firedAtRandom first fired
        refine ⟨report, applied, ?_⟩
        rw [← second, used]
        exact if_pos fired
      · right
        rw [← second, Event.apply_of_not_firedAtRandom (by simp [first, fired])]
        exact if_neg fired

/-- The seeds are those of the orders that the shuffle state gives one after another. -/
theorem map_seed_firings (shuffle : ShuffleState) (calls : List (Event σ × σ)) :
    (shuffle.firings calls).map Firing.seed =
      (List.range (shuffle.firings calls).length).map
        fun count => (shuffle.skip count).orderSeed := by
  induction calls generalizing shuffle with
  | nil => rfl
  | cons call later ih =>
      rcases shuffle.firings_cases call.1 call.2 later with ⟨report, _, fired⟩ | idle
      · rw [fired, List.map_cons, ih, List.length_cons, List.range_succ_eq_map, List.map_cons,
          List.map_map]
        rfl
      · rw [idle]
        exact ih shuffle

theorem applied_of_mem_firings {shuffle : ShuffleState} {calls : List (Event σ × σ)}
    {firing : Firing σ} (member : firing ∈ shuffle.firings calls) :
    firing.report.applied = Shuffle.order (.ofSeed firing.seed) firing.event.effects.length := by
  induction calls generalizing shuffle with
  | nil => contradiction
  | cons call later ih =>
      rcases shuffle.firings_cases call.1 call.2 later with ⟨report, applied, fired⟩ | idle
      · rw [fired] at member
        rcases List.mem_cons.1 member with rfl | member
        · exact applied
        · exact ih member
      · rw [idle] at member
        exact ih member

/-- However events are applied, as long as no more of them fire in random order than there are
numbers of 64 bits, all of these have different seeds, from which their orders are made.  For
under the seed of the playthrough each number is the seed of one order, and the count of
orders takes each value once before it begins anew. -/
theorem order_seeds_distinct (shuffle : ShuffleState) {calls : List (Event σ × σ)}
    (few : (shuffle.firings calls).length < UInt64.size + 1) :
    ((shuffle.firings calls).map Firing.seed).Nodup ∧
    (∀ firing ∈ shuffle.firings calls, firing.report.applied =
      Shuffle.order (.ofSeed firing.seed) firing.event.effects.length) ∧
    (Function.Bijective fun draws => (⟨shuffle.seed, draws⟩ : ShuffleState).orderSeed) ∧
    (∀ draws, ∃! count, count < UInt64.size ∧ (shuffle.skip count).draws = draws) ∧
    shuffle.skip UInt64.size = shuffle := by
  refine ⟨?_, fun firing => applied_of_mem_firings, orderSeed_bijective shuffle.seed,
    existsUnique_skip shuffle, skip_size shuffle⟩
  rw [map_seed_firings]
  apply List.Nodup.map_on
  · intro first firstMember second secondMember same
    have firstSmall := List.mem_range.1 firstMember
    have secondSmall := List.mem_range.1 secondMember
    exact shuffle.orderSeed_skip_inj (by omega) (by omega) same
  · exact List.nodup_range

/-- A playthrough whose count of orders begins anew: two events fire, and between them one is
idle and one is refused. -/
theorem order_seeds_distinct_anew :
    let shuffle : ShuffleState := ⟨5, 0xFFFFFFFFFFFFFFFF⟩
    let ring : Event Variables := ⟨"ring", .and, .concurrent, [], [.toggle "rope", .add "rung" 1]⟩
    let locked : Event Variables := ⟨"locked", .or, .concurrent, [.flag "key"], [.toggle "door"]⟩
    let unknown : Event Variables := ⟨"unknown", .unrecognized "XOR", .concurrent, [], []⟩
    let calls : List (Event Variables × Variables) :=
      [(ring, .empty), (locked, .empty), (unknown, .empty), (ring, .empty)]
    (shuffle.firings calls).length < UInt64.size + 1 ∧
    (shuffle.firings calls).map Firing.seed = [0x61C8864680B583EE, 5] ∧
    ((shuffle.firings calls).map Firing.seed).Nodup := by
  intro shuffle ring locked unknown calls
  have twice : (shuffle.firings calls).length = 2 := by rfl
  have few : (shuffle.firings calls).length < UInt64.size + 1 := by
    rw [twice]
    decide
  have seeds : (shuffle.firings calls).map Firing.seed = [0x61C8864680B583EE, 5] := by decide
  exact ⟨few, seeds, (shuffle.order_seeds_distinct few).1⟩

end ShuffleState

end BranchingStory
