import BranchingStory.Proofs.Event.Application
import BranchingStory.Proofs.Event.Number

/-!
# Adding to the score of responsibility

The score of a player is the number of a variable, and nought where that is negative.  An
addition counts from the number, not from the score, and leaves no negative number behind.  So
number and score are the same from the first addition on, and every further one moves the score
that the player has.

Before the first addition they need not be the same: an effect that sets the variable, the host
or a save may have left a negative number.  An addition above nought then first makes up for it,
and raises the score by less than its amount.
-/

namespace BranchingStory

/-- What an addition makes of a score: the sum held within 64 bits and not below the least
score. -/
def raised (score amount : Int64) : Int64 := max (saturatingAdd score amount) leastResponsibility

/-- The effect of adding to the score. -/
def Effect.addition (amount : Int64) : Effect Variables := .add responsibilityKey amount

theorem raised_toInt (score amount : Int64) :
    (raised score amount).toInt =
      max (max Int64.minValue.toInt (min (score.toInt + amount.toInt) Int64.maxValue.toInt)) 0 := by
  rw [raised, Int64.max_toInt, saturatingAdd_toInt, leastResponsibility, Int64.toInt_zero]

theorem addedTo_responsibilityKey (number amount : Int64) :
    addedTo responsibilityKey number amount = raised number amount := by
  rw [addedTo, if_pos rfl, raised]

theorem leastResponsibility_le_raised (score amount : Int64) :
    leastResponsibility ≤ raised score amount := by
  rw [Int64.le_iff_toInt_le, raised_toInt, leastResponsibility, Int64.toInt_zero]
  omega

/-- Counting from nought and counting from a number below it agree only where nought is what
remains. -/
theorem raised_eq_raised_max_iff (number amount : Int64) :
    raised number amount = raised (max number leastResponsibility) amount ↔
      leastResponsibility ≤ number ∨ amount ≤ 0 := by
  have low := Int64.le_toInt number
  have high := Int64.toInt_le amount
  have least := Int64.toInt_minValue
  have greatest := Int64.toInt_maxValue
  rw [← Int64.toInt_inj, raised_toInt, raised_toInt, Int64.max_toInt, Int64.le_iff_toInt_le,
    Int64.le_iff_toInt_le, leastResponsibility, Int64.toInt_zero]
  omega

namespace Variables

variable (state : Variables) (amount : Int64)

theorem responsibility_eq :
    PlayerState.responsibility state =
      max (numberOf state responsibilityKey) leastResponsibility := rfl

theorem responsibility_of_least_le
    (reaches : leastResponsibility ≤ numberOf state responsibilityKey) :
    PlayerState.responsibility state = numberOf state responsibilityKey := by
  rw [responsibility_eq, ← Int64.toInt_inj, Int64.max_toInt]
  have reaches := Int64.le_iff_toInt_le.1 reaches
  omega

/-- After an addition the variable holds what the addition made of its number. -/
theorem numberOf_addition :
    numberOf (Effect.apply state (.addition amount)) responsibilityKey =
      raised (numberOf state responsibilityKey) amount := by
  have stored : (Effect.apply state (.addition amount)).get? responsibilityKey =
      some (.int (addedTo responsibilityKey (numberOf state responsibilityKey) amount)) := by
    refine (get?_set state _ _ _).trans ?_
    rw [if_pos rfl]
  rw [numberOf]
  change (((Effect.apply state (.addition amount)).get? responsibilityKey).bind
    Value.asInt?).getD 0 = _
  rw [stored, addedTo_responsibilityKey]
  rfl

theorem leastResponsibility_le_numberOf_addition :
    leastResponsibility ≤
      numberOf (Effect.apply state (.addition amount)) responsibilityKey := by
  rw [numberOf_addition]
  exact leastResponsibility_le_raised _ _

theorem responsibility_addition :
    PlayerState.responsibility (Effect.apply state (.addition amount)) =
      raised (numberOf state responsibilityKey) amount := by
  have reaches := leastResponsibility_le_numberOf_addition state amount
  rw [responsibility_of_least_le _ reaches, numberOf_addition]

/-- Where the variable is not negative, additions are counted from the score. -/
theorem responsibility_additions_of_least_le (amounts : List Int64)
    (reaches : leastResponsibility ≤ numberOf state responsibilityKey) :
    PlayerState.responsibility (Effect.applyAll state (amounts.map .addition)) =
      amounts.foldl raised (PlayerState.responsibility state) := by
  induction amounts generalizing state with
  | nil => rfl
  | cons amount amounts ih =>
      have rest := ih _ (leastResponsibility_le_numberOf_addition state amount)
      rw [responsibility_addition, ← responsibility_of_least_le state reaches] at rest
      rw [List.map_cons, List.foldl_cons]
      exact rest

/-- After additions, one or more, the score has been counted from the number of the variable. -/
theorem responsibility_additions_of_cons (amounts : List Int64) :
    PlayerState.responsibility (Effect.applyAll state ((amount :: amounts).map .addition)) =
      amounts.foldl raised (raised (numberOf state responsibilityKey) amount) := by
  have reaches := leastResponsibility_le_numberOf_addition state amount
  rw [← responsibility_addition]
  exact responsibility_additions_of_least_le _ amounts reaches

/-- The score after additions to it, whatever the variable holds.  They are counted from the
number of the variable, where the score at the beginning is that number or nought.

So the first addition moves the score that the player has exactly when the number is not
negative or the amount is not above nought, and then all further ones do. -/
theorem responsibility_additions :
    (∀ amount amounts,
      PlayerState.responsibility (Effect.applyAll state ((amount :: amounts).map .addition)) =
        amounts.foldl raised (raised (numberOf state responsibilityKey) amount)) ∧
    (∀ amount,
      PlayerState.responsibility (Effect.apply state (.addition amount)) =
          raised (PlayerState.responsibility state) amount ↔
        leastResponsibility ≤ numberOf state responsibilityKey ∨ amount ≤ 0) ∧
    (∀ amounts : List Int64,
      leastResponsibility ≤ numberOf state responsibilityKey ∨
          (∀ amount ∈ amounts.head?, amount ≤ 0) →
        PlayerState.responsibility (Effect.applyAll state (amounts.map .addition)) =
          amounts.foldl raised (PlayerState.responsibility state)) := by
  refine ⟨responsibility_additions_of_cons state, ?moves, ?counts⟩
  case moves =>
    intro amount
    rw [responsibility_addition, responsibility_eq]
    exact raised_eq_raised_max_iff _ amount
  case counts =>
    intro amounts settled
    cases amounts with
    | nil => rfl
    | cons amount amounts =>
        have moved : raised (numberOf state responsibilityKey) amount =
            raised (PlayerState.responsibility state) amount :=
          (raised_eq_raised_max_iff _ amount).2 (settled.imp_right (· amount rfl))
        rw [responsibility_additions_of_cons, List.foldl_cons, moved]

/-- A score of four is lost by an addition of minus nine and is three after another one of
three. -/
theorem responsibility_additions_four :
    let state := Effect.apply .empty (.set responsibilityKey (.int 4))
    leastResponsibility ≤ numberOf state responsibilityKey ∧
      PlayerState.responsibility (Effect.applyAll state ([-9, 3].map .addition)) = 3 := by
  intro state
  have reaches : leastResponsibility ≤ numberOf state responsibilityKey := by decide
  have counted := (responsibility_additions state).2.2 [-9, 3] (.inl reaches)
  exact ⟨reaches, counted.trans (by decide)⟩

/-- After a variable of minus five the score is nought, and an addition of three leaves it
there. -/
theorem responsibility_addition_debt :
    ¬ ∀ (state : Variables) (amount : Int64),
      PlayerState.responsibility (Effect.apply state (.addition amount)) =
        raised (PlayerState.responsibility state) amount := by
  intro moves
  have same := moves (Effect.apply .empty (.set responsibilityKey (.int (-5)))) 3
  exact absurd same (by decide)

end Variables
end BranchingStory
