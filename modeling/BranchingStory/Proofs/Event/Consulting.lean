import BranchingStory.Proofs.Event.Application

/-!
# Consulting conditions

Finding out whether an event fires asks its conditions one after another, and a host sees
which of them are asked.  The run that notes each condition it asks goes by the library's
loops over lists, which stop as soon as the outcome is certain; what it gives and what it
notes are read off one relation.  Negating every condition while exchanging the two logics
negates the outcome, and the host sees no difference.
-/

namespace BranchingStory

variable {σ : Type}

namespace Condition

/-- The condition that is asked in the end.  A negation asks what it negates. -/
def asked : Condition σ → Condition σ
  | .not condition => condition.asked
  | condition => condition

theorem hostName?_asked (condition : Condition σ) :
    condition.asked.hostName? = condition.hostName? := by
  induction condition with
  | not condition ih => exact ih
  | flag | equals | atLeast | atMost | host => rfl

variable [PlayerState σ]

/-- Asks whether the condition holds, and notes what has been asked. -/
def consult (state : σ) : Condition σ → StateM (List (Condition σ)) Bool
  | .not condition => return !(← condition.consult state)
  | condition => do
      modify (· ++ [condition])
      return condition.holds state

theorem run_consult (state : σ) (condition : Condition σ) (noted : List (Condition σ)) :
    (condition.consult state).run noted =
      (condition.holds state, noted ++ [condition.asked]) := by
  induction condition with
  | not condition ih =>
      rw [consult, StateT.run_bind, ih]
      rfl
  | flag | equals | atLeast | atMost | host => rfl

end Condition

/-- The logic under which the negated conditions give the negated outcome. -/
def Logic.dual : Logic → Logic
  | .and => .or
  | .or => .and
  | .unrecognized tag => .unrecognized tag

namespace Event

/-- The event with every condition negated, under the other logic. -/
def dual (event : Event σ) : Event σ :=
  { event with logic := event.logic.dual, conditions := event.conditions.map .not }

variable [PlayerState σ]

/-- Finds out whether the conditions hold under the logic, and notes what has been asked. -/
def consult (event : Event σ) (state : σ) :
    StateM (List (Condition σ)) (Except StoryError Bool) :=
  match event.logic with
  | .and => .ok <$> event.conditions.allM (·.consult state)
  | .or => .ok <$> event.conditions.anyM (·.consult state)
  | .unrecognized tag => return .error (.invalidLogic tag)

end Event

variable [PlayerState σ]

/-- Consulting conditions in order, until one has the truth that settles the outcome. -/
inductive Consults (settling : Bool) (state : σ) :
    List (Condition σ) → List (Condition σ) → Bool → Prop where
  /-- None settles the outcome, so all are consulted. -/
  | exhausted {conditions : List (Condition σ)}
      (unsettled : ∀ condition ∈ conditions, condition.holds state = !settling) :
      Consults settling state conditions conditions (!settling)
  /-- The first that settles the outcome is the last that is consulted. -/
  | settled {before after : List (Condition σ)} {first : Condition σ}
      (unsettled : ∀ condition ∈ before, condition.holds state = !settling)
      (settles : first.holds state = settling) :
      Consults settling state (before ++ first :: after) (before ++ [first]) settling

section

variable {settling settled : Bool} {state : σ} {condition : Condition σ}
  {conditions consulted : List (Condition σ)}

namespace Consults

theorem nil : Consults settling state [] [] (!settling) :=
  .exhausted fun _ member => absurd member List.not_mem_nil

theorem stop (settles : condition.holds state = settling) :
    Consults settling state (condition :: conditions) [condition] settling :=
  .settled (fun _ member => absurd member List.not_mem_nil) settles

theorem go (unsettled : condition.holds state = !settling)
    (rest : Consults settling state conditions consulted settled) :
    Consults settling state (condition :: conditions) (condition :: consulted) settled := by
  cases rest with
  | exhausted others => exact .exhausted (List.forall_mem_cons.2 ⟨unsettled, others⟩)
  | settled others settles =>
      exact .settled (List.forall_mem_cons.2 ⟨unsettled, others⟩) settles

end Consults

theorem consultUntil_of_settles (settles : condition.holds state = settling) :
    consultUntil settling state (condition :: conditions) = [condition] := by
  rw [consultUntil, if_pos settles]

theorem consultUntil_of_unsettled (unsettled : condition.holds state = !settling) :
    consultUntil settling state (condition :: conditions) =
      condition :: consultUntil settling state conditions := by
  have other : condition.holds state ≠ settling := by
    intro settles
    exact (Bool.not_eq_self settling).1 (unsettled.symm.trans settles)
  rw [consultUntil, if_neg other]

theorem holds_cases (settling : Bool) (state : σ) (condition : Condition σ) :
    condition.holds state = settling ∨ condition.holds state = !settling := by
  cases condition.holds state <;> cases settling <;> simp

theorem consults_false (state : σ) (conditions : List (Condition σ)) :
    Consults false state conditions (consultUntil false state conditions)
      (conditions.all (·.holds state)) := by
  induction conditions with
  | nil => exact .nil
  | cons condition conditions ih =>
      cases holds_cases false state condition with
      | inl settles =>
          rw [consultUntil_of_settles settles, List.all_cons, settles]
          exact .stop settles
      | inr unsettled =>
          rw [consultUntil_of_unsettled unsettled, List.all_cons, unsettled]
          exact .go unsettled ih

theorem consults_true (state : σ) (conditions : List (Condition σ)) :
    Consults true state conditions (consultUntil true state conditions)
      (conditions.any (·.holds state)) := by
  induction conditions with
  | nil => exact .nil
  | cons condition conditions ih =>
      cases holds_cases true state condition with
      | inl settles =>
          rw [consultUntil_of_settles settles, List.any_cons, settles]
          exact .stop settles
      | inr unsettled =>
          rw [consultUntil_of_unsettled unsettled, List.any_cons, unsettled]
          exact .go unsettled ih

/-! ## The run that notes what it asks -/

variable {noted : List (Condition σ)}

theorem run_allM_consult (state : σ) (conditions noted : List (Condition σ)) :
    (conditions.allM (·.consult state) : StateM _ Bool).run noted =
      (conditions.all (·.holds state),
        noted ++ (consultUntil false state conditions).map Condition.asked) := by
  induction conditions generalizing noted with
  | nil => exact congrArg _ (List.append_nil noted).symm
  | cons condition conditions ih =>
      rw [List.allM, StateT.run_bind, Condition.run_consult, List.all_cons]
      cases holds_cases false state condition with
      | inl settles =>
          rw [consultUntil_of_settles settles, settles]
          rfl
      | inr unsettled =>
          rw [consultUntil_of_unsettled unsettled, unsettled]
          refine (ih _).trans ?_
          rw [List.append_assoc]
          rfl

theorem run_anyM_consult (state : σ) (conditions noted : List (Condition σ)) :
    (conditions.anyM (·.consult state) : StateM _ Bool).run noted =
      (conditions.any (·.holds state),
        noted ++ (consultUntil true state conditions).map Condition.asked) := by
  induction conditions generalizing noted with
  | nil => exact congrArg _ (List.append_nil noted).symm
  | cons condition conditions ih =>
      rw [List.anyM, StateT.run_bind, Condition.run_consult, List.any_cons]
      cases holds_cases true state condition with
      | inl settles =>
          rw [consultUntil_of_settles settles, settles]
          rfl
      | inr unsettled =>
          rw [consultUntil_of_unsettled unsettled, unsettled]
          refine (ih _).trans ?_
          rw [List.append_assoc]
          rfl

end

namespace Event

theorem run_consult_eq (event : Event σ) (state : σ) (noted : List (Condition σ)) :
    (event.consult state).run noted =
      (event.evaluate state, noted ++ (event.consulted state).map Condition.asked) := by
  unfold consult evaluate consulted
  cases event.logic with
  | and => rw [StateT.run_map, run_allM_consult]; rfl
  | or => rw [StateT.run_map, run_anyM_consult]; rfl
  | unrecognized tag => exact congrArg _ (List.append_nil noted).symm

/-! ## Negating every condition -/

theorem consultUntil_map_not (settling : Bool) (state : σ) (conditions : List (Condition σ)) :
    consultUntil (!settling) state (conditions.map .not) =
      (consultUntil settling state conditions).map .not := by
  induction conditions with
  | nil => rfl
  | cons condition conditions ih =>
      rw [List.map_cons]
      cases holds_cases settling state condition with
      | inl settles =>
          have negated : (Condition.not condition).holds state = !settling :=
            congrArg (! ·) settles
          rw [consultUntil_of_settles settles, consultUntil_of_settles negated]
          rfl
      | inr unsettled =>
          have negated : (Condition.not condition).holds state = !!settling :=
            congrArg (! ·) unsettled
          rw [consultUntil_of_unsettled unsettled, consultUntil_of_unsettled negated, ih]
          rfl

theorem consulted_dual (event : Event σ) (state : σ) :
    event.dual.consulted state = (event.consulted state).map .not := by
  unfold consulted dual
  cases event.logic with
  | and => exact consultUntil_map_not false state event.conditions
  | or => exact consultUntil_map_not true state event.conditions
  | unrecognized tag => rfl

theorem evaluate_dual (event : Event σ) (state : σ) :
    event.dual.evaluate state = (event.evaluate state).map (! ·) := by
  unfold evaluate dual
  cases event.logic with
  | and =>
      simp only [Logic.dual, Except.map, List.any_map, List.not_all_eq_any_not]
      rfl
  | or =>
      simp only [Logic.dual, Except.map, List.all_map, List.not_any_eq_all_not]
      rfl
  | unrecognized tag => rfl

theorem conditionCalls_eq (event : Event σ) (state : σ) :
    event.conditionCalls state =
      ((event.consulted state).map Condition.asked).filterMap Condition.hostName? := by
  rw [conditionCalls, List.filterMap_map]
  exact congrArg (List.filterMap · _) (funext fun condition => condition.hostName?_asked.symm)

/-- Whether an event fires is found out by asking its conditions in order.  Where all must
hold, the first false one ends it, and the outcome is whether all hold; where one must hold,
the first true one ends it, and the outcome is whether one holds; without such a condition
all are asked.  With every condition negated, under the other logic, the outcome is the
negated one, and the same conditions are asked in the same order. -/
theorem consult_short_circuits (event : Event σ) (state : σ) (noted : List (Condition σ)) :
    (event.consult state).run noted =
      (event.evaluate state, noted ++ (event.consulted state).map Condition.asked) ∧
    (let every := { event with logic := .and }
      ∃ holds, every.evaluate state = .ok holds ∧
        Consults false state event.conditions (every.consulted state) holds ∧
        (holds = true ↔ ∀ condition ∈ event.conditions, condition.holds state = true)) ∧
    (let one := { event with logic := .or }
      ∃ holds, one.evaluate state = .ok holds ∧
        Consults true state event.conditions (one.consulted state) holds ∧
        (holds = true ↔ ∃ condition ∈ event.conditions, condition.holds state = true)) ∧
    event.dual.consulted state = (event.consulted state).map .not ∧
    (event.dual.consult state).run noted =
      ((event.evaluate state).map (! ·), ((event.consult state).run noted).2) ∧
    event.dual.conditionCalls state = event.conditionCalls state := by
  have same : (event.dual.consulted state).map Condition.asked =
      (event.consulted state).map Condition.asked := by
    rw [consulted_dual, List.map_map]
    rfl
  refine ⟨event.run_consult_eq state noted, ?_, ?_, event.consulted_dual state, ?_, ?_⟩
  · exact ⟨_, rfl, consults_false state event.conditions, List.all_eq_true⟩
  · exact ⟨_, rfl, consults_true state event.conditions, List.any_eq_true⟩
  · rw [run_consult_eq, run_consult_eq, evaluate_dual, same]
  · rw [conditionCalls_eq, conditionCalls_eq, same]

/-- The third binding is not called, since the second one settles the outcome. -/
example :
    let knock : Event Variables := ⟨"knock", .or, .sequential,
      [.host "asleep" fun _ => false, .not (.host "locked" fun _ => false),
        .host "barred" fun _ => true], []⟩
    knock.conditionCalls .empty = ["asleep", "locked"] ∧
      knock.dual.conditionCalls .empty = ["asleep", "locked"] :=
  ⟨rfl, rfl⟩

end Event

end BranchingStory
