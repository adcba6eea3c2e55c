import BranchingStory.Choice.Resolver
import BranchingStory.Proofs.Event.Number

/-!
# What is listed can be taken

Listing and taking an option compare with the same score, which is never below the
least one.  So an option is taken exactly when it is listed, and an option that is open
to the least score is listed whatever the host answers for the score.
-/

namespace BranchingStory

variable {σ : Type} [PlayerState σ] {state : σ}

/-- The score of the gates is the host's answer, and nought where that is negative. -/
theorem gateScore_toInt (state : σ) :
    (gateScore state).toInt = max (PlayerState.responsibility state).toInt 0 := by
  rw [gateScore, Int64.max_toInt, leastResponsibility, Int64.toInt_zero]

theorem leastResponsibility_le_gateScore (state : σ) :
    leastResponsibility ≤ gateScore state := by
  rw [Int64.le_iff_toInt_le, gateScore_toInt, leastResponsibility, Int64.toInt_zero]
  omega

theorem ChoiceLine.isOpenTo_iff {line : ChoiceLine} {score : Int64} :
    line.isOpenTo score = true ↔ line.minResponsibility.toInt ≤ score.toInt := by
  rw [isOpenTo, decide_eq_true_eq, Int64.le_iff_toInt_le]

theorem ChoiceLine.isOpenTo_mono {line : ChoiceLine} {low high : Int64} (le : low ≤ high)
    (isOpen : line.isOpenTo low = true) : line.isOpenTo high = true := by
  simp only [isOpenTo, decide_eq_true_eq] at isOpen ⊢
  exact Int64.le_trans isOpen le

namespace Choice

variable {choice : Choice} {index : Nat} {line : ChoiceLine}

theorem mem_openLines :
    (⟨index, line⟩ : OpenLine) ∈ choice.openLines state ↔
      choice.lines[index]? = some line ∧ line.isOpenTo (gateScore state) = true := by
  simp only [openLines, List.mem_map, List.mem_filter, OpenLine.mk.injEq, Prod.exists,
    List.mem_zipIdx_iff_getElem?]
  constructor
  · rintro ⟨_, _, ⟨lookup, isOpen⟩, rfl, rfl⟩
    exact ⟨lookup, isOpen⟩
  · rintro ⟨lookup, isOpen⟩
    exact ⟨line, index, ⟨lookup, isOpen⟩, rfl, rfl⟩

theorem openLines_increasing (choice : Choice) (state : σ) :
    (choice.openLines state).Pairwise fun left right => left.index < right.index := by
  have numbered : choice.lines.zipIdx.Pairwise fun left right => left.2 < right.2 := by
    apply List.pairwise_map.1
    rw [List.zipIdx_map_snd]
    exact List.pairwise_lt_range'
  exact List.pairwise_map.2 (numbered.filter _)

/-- A listed option is taken with the outcome of its own line. -/
theorem resolve_of_listed (listed : (⟨index, line⟩ : OpenLine) ∈ choice.openLines state) :
    choice.resolve index state = .ok line.outcome := by
  obtain ⟨lookup, isOpen⟩ := mem_openLines.1 listed
  simp only [resolve, lookup, Option.filter_some, isOpen, ↓reduceIte]

/-- An index under which nothing is listed is refused. -/
theorem resolve_of_not_listed
    (closed : ∀ line, (⟨index, line⟩ : OpenLine) ∉ choice.openLines state) :
    choice.resolve index state = .error (.invalidSelection choice.id index) := by
  have nothing : (choice.lines[index]?.filter fun line => line.isOpenTo (gateScore state)) =
      none := by
    rw [Option.filter_eq_none_iff]
    intro line lookup isOpen
    exact closed line (mem_openLines.2 ⟨lookup, isOpen⟩)
  simp only [resolve, nothing]

theorem openLines_ne_nil (member : line ∈ choice.lines)
    (isOpen : line.isOpenTo leastResponsibility = true) (state : σ) :
    choice.openLines state ≠ [] := by
  obtain ⟨index, inside, rfl⟩ := List.mem_iff_getElem.1 member
  have lookup : choice.lines[index]? = some choice.lines[index] :=
    List.getElem?_eq_getElem inside
  have stillOpen := ChoiceLine.isOpenTo_mono (leastResponsibility_le_gateScore state) isOpen
  exact List.ne_nil_of_mem (mem_openLines.2 ⟨lookup, stillOpen⟩)

end Choice

end BranchingStory
