import BranchingStory.Proofs.Event.Binding
import BranchingStory.Proofs.Event.Number

/-!
# What the rules of an event mean

An author's rule has a meaning of its own.  A condition asks whether a variable is set and
true, or set and equal to a value, or compares the integer for which the variable stands; a
negation turns a meaning around, and the name of a host binding means what the host has under
it.  An effect leads from one state to another, with sums that stay within 64 bits.  Binding
keeps these meanings: a bound condition holds where its rule means truth, and a bound effect
leads where its rule leads.

Binding fails only for the want of a name.  The names that a rule asks are those of its host
bindings, below any number of negations; conditions and effects are looked up in tables of
their own, and a name in one of them is of no use in the other.
-/

namespace BranchingStory

variable {σ : Type}

/-! ## Names that are asked -/

/-- A condition asks the host for a name, below any number of negations. -/
inductive ConditionRule.Asks (name : String) : ConditionRule → Prop where
  | host : Asks name (.host name)
  | not {rule : ConditionRule} (inner : Asks name rule) : Asks name (.not rule)

/-- The two tables of a host. -/
inductive HostTable where
  | conditions
  | effects
  deriving DecidableEq, Repr

/-- A host supplies something under a name in one of its tables. -/
def HostBindings.Has (bindings : HostBindings σ) (table : HostTable) (name : String) : Prop :=
  match table with
  | .conditions => ∃ holds, bindings.conditions[name]? = some holds
  | .effects => ∃ apply, bindings.effects[name]? = some apply

/-- An event asks the host for a name in one of its tables. -/
inductive EventBody.Asks (body : EventBody) : HostTable → String → Prop where
  | condition {rule : ConditionRule} {name : String} (written : rule ∈ body.conditions)
      (asks : rule.Asks name) : Asks body .conditions name
  | effect {name : String} (written : .host name ∈ body.results) : Asks body .effects name

section Failure

variable {bindings : HostBindings σ}

/-- A condition that was bound asks only for names that the host has. -/
theorem ConditionRule.has_of_asks {rule : ConditionRule} {name : String}
    (asks : rule.Asks name) {condition : Condition σ}
    (bound : rule.bind bindings = .ok condition) : bindings.Has .conditions name := by
  induction asks generalizing condition with
  | host =>
      obtain ⟨holds, registered, _⟩ := bind_host_ok_iff.1 bound
      exact ⟨holds, registered⟩
  | not _ ih =>
      obtain ⟨_, inner, _⟩ := bind_not_ok_iff.1 bound
      exact ih inner

/-- A condition cannot be bound only if it asks for a name that the host does not have, and
the error says which. -/
theorem ConditionRule.asks_of_bind_error {rule : ConditionRule} {error : StoryError}
    (refused : rule.bind bindings = .error error) :
    ∃ name, error = .unknownHostBinding name ∧ rule.Asks name ∧
      ¬bindings.Has .conditions name := by
  induction rule with
  | flag key | equals key value | atLeast key threshold | atMost key threshold => cases refused
  | not rule ih =>
      obtain ⟨name, named, asks, missing⟩ := ih (bind_not_error_iff.1 refused)
      exact ⟨name, named, .not asks, missing⟩
  | host name =>
      obtain ⟨absent, rfl⟩ := bind_host_error_iff.1 refused
      refine ⟨name, rfl, .host, ?_⟩
      rintro ⟨holds, registered⟩
      cases absent.symm.trans registered

theorem EffectRule.has_of_bind {name : String} {effect : Effect σ}
    (bound : (EffectRule.host name).bind bindings = .ok effect) :
    bindings.Has .effects name := by
  obtain ⟨apply, registered, _⟩ := bind_host_ok_iff.1 bound
  exact ⟨apply, registered⟩

theorem EffectRule.eq_host_of_bind_error {rule : EffectRule} {error : StoryError}
    (refused : rule.bind bindings = .error error) :
    ∃ name, error = .unknownHostBinding name ∧ rule = .host name ∧
      ¬bindings.Has .effects name := by
  cases rule with
  | set key value | add key amount | toggle key => cases refused
  | host name =>
      obtain ⟨absent, rfl⟩ := bind_host_error_iff.1 refused
      refine ⟨name, rfl, rfl, ?_⟩
      rintro ⟨apply, registered⟩
      cases absent.symm.trans registered

namespace EventBody

variable {body : EventBody} {id : String}

/-- An event that cannot be bound asks for a name that the host does not have where it is
asked, and the error says which. -/
theorem asks_of_bind_error {error : StoryError}
    (refused : body.bind bindings id = .error error) :
    ∃ table name, error = .unknownHostBinding name ∧ body.Asks table name ∧
      ¬bindings.Has table name := by
  rcases exists_bind_error refused with ⟨rule, written, given⟩ | ⟨rule, written, given⟩
  · obtain ⟨name, named, asks, missing⟩ := ConditionRule.asks_of_bind_error given
    exact ⟨.conditions, name, named, .condition written asks, missing⟩
  · obtain ⟨name, named, rfl, missing⟩ := EffectRule.eq_host_of_bind_error given
    exact ⟨.effects, name, named, .effect written, missing⟩

/-- An event can be bound exactly when the host has each name where it is asked. -/
theorem exists_bind_iff_has :
    (∃ event, body.bind bindings id = .ok event) ↔
      ∀ table name, body.Asks table name → bindings.Has table name := by
  constructor
  · intro bound table name asks
    obtain ⟨conditions, effects⟩ := exists_bind_iff.1 bound
    cases asks with
    | condition written asks =>
        obtain ⟨_, given⟩ := conditions _ written
        exact ConditionRule.has_of_asks asks given
    | effect written =>
        obtain ⟨_, given⟩ := effects _ written
        exact EffectRule.has_of_bind given
  · intro has
    cases bound : body.bind bindings id with
    | ok event => exact ⟨event, rfl⟩
    | error error =>
        obtain ⟨table, name, _, asks, missing⟩ := asks_of_bind_error bound
        exact absurd (has table name asks) missing

end EventBody

end Failure

section Meaning

variable [PlayerState σ] {bindings : HostBindings σ}

/-- What a condition means in a state. -/
def ConditionRule.Means (bindings : HostBindings σ) (state : σ) : ConditionRule → Prop
  | .flag key => TruthIn (PlayerState.get? state key)
  | .equals key value =>
      ∃ found, PlayerState.get? state key = some found ∧ found.equals value = true
  | .atLeast key threshold => threshold.toInt ≤ integerIn (PlayerState.get? state key)
  | .atMost key threshold => integerIn (PlayerState.get? state key) ≤ threshold.toInt
  | .not rule => ¬rule.Means bindings state
  | .host name => ∃ holds, bindings.conditions[name]? = some holds ∧ holds state = true

/-- An effect leads from a state to another. -/
inductive EffectRule.LeadsTo (bindings : HostBindings σ) (state : σ) : EffectRule → σ → Prop where
  | set {key : String} {value : Value} :
      LeadsTo bindings state (.set key value) (PlayerState.set state key value)
  | add {key : String} {amount sum : Int64}
      (summed : sum.toInt =
        heldSum key (integerIn (PlayerState.get? state key) + amount.toInt)) :
      LeadsTo bindings state (.add key amount) (PlayerState.set state key (.int sum))
  | toggle {key : String} {turned : Bool}
      (contrary : turned = true ↔ ¬TruthIn (PlayerState.get? state key)) :
      LeadsTo bindings state (.toggle key) (PlayerState.set state key (.bool turned))
  | host {name : String} {apply : σ → σ} (registered : bindings.effects[name]? = some apply) :
      LeadsTo bindings state (.host name) (apply state)

/-- A bound condition holds where its rule means truth. -/
theorem ConditionRule.holds_iff_means {rule : ConditionRule} {condition : Condition σ}
    (bound : rule.bind bindings = .ok condition) (state : σ) :
    condition.holds state = true ↔ rule.Means bindings state := by
  induction rule generalizing condition with
  | flag key =>
      cases bound
      exact flagOf_iff state key
  | equals key value =>
      cases bound
      exact Option.any_eq_true _ _
  | atLeast key threshold =>
      cases bound
      simp only [Condition.holds, Means, decide_eq_true_eq, Int64.le_iff_toInt_le, numberOf_toInt]
  | atMost key threshold =>
      cases bound
      simp only [Condition.holds, Means, decide_eq_true_eq, Int64.le_iff_toInt_le, numberOf_toInt]
  | not rule ih =>
      obtain ⟨negated, inner, rfl⟩ := bind_not_ok_iff.1 bound
      simp only [Condition.holds, Means, Bool.not_eq_true', ← ih inner, Bool.not_eq_true]
  | host name =>
      obtain ⟨holds, registered, rfl⟩ := bind_host_ok_iff.1 bound
      simp only [Condition.holds, Means, registered, Option.some.injEq, exists_eq_left']

/-- A bound effect leads where its rule leads, and nowhere else. -/
theorem EffectRule.leadsTo_iff {rule : EffectRule} {effect : Effect σ}
    (bound : rule.bind bindings = .ok effect) (state after : σ) :
    rule.LeadsTo bindings state after ↔ effect.apply state = after := by
  cases rule with
  | set key value =>
      cases bound
      constructor
      · rintro ⟨⟩
        rfl
      · rintro rfl
        exact .set
  | add key amount =>
      cases bound
      -- A sum that is held is one number of 64 bits, so the rule leads to one state only.
      have summed := addedTo_toInt key (numberOf state key) amount
      rw [numberOf_toInt] at summed
      constructor
      · rintro ⟨⟩
        next sum agrees =>
          have same := Int64.toInt_inj.1 (summed.trans agrees.symm)
          rw [Effect.apply, same]
      · rintro rfl
        exact .add summed
  | toggle key =>
      cases bound
      have contrary : (!flagOf state key) = true ↔ ¬TruthIn (PlayerState.get? state key) := by
        rw [← flagOf_iff, Bool.not_eq_true', Bool.not_eq_true]
      constructor
      · rintro ⟨⟩
        next turned agrees =>
          have same := Bool.eq_iff_iff.2 (contrary.trans agrees.symm)
          rw [Effect.apply, same]
      · rintro rfl
        exact .toggle contrary
  | host name =>
      obtain ⟨apply, registered, rfl⟩ := bind_host_ok_iff.1 bound
      constructor
      · rintro ⟨⟩
        next found =>
          cases registered.symm.trans found
          rfl
      · rintro rfl
        exact .host registered

/-- An event does what its body means: it has the same tags, and its conditions and effects
stand for those of the body, one for one and in the same order. -/
structure EventBody.RealizedBy (bindings : HostBindings σ) (body : EventBody)
    (event : Event σ) : Prop where
  logic : event.logic = body.logic
  mode : event.mode = body.mode
  conditions : List.Forall₂
    (fun rule condition => ∀ state,
      condition.holds state = true ↔ rule.Means bindings state)
    body.conditions event.conditions
  effects : List.Forall₂
    (fun rule effect => ∀ state after,
      rule.LeadsTo bindings state after ↔ effect.apply state = after)
    body.results event.effects

theorem EventBody.realizedBy_of_bind {body : EventBody} {id : String} {event : Event σ}
    (bound : body.bind bindings id = .ok event) : body.RealizedBy bindings event := by
  obtain ⟨_, logic, mode, conditions, effects⟩ := bind_ok_iff.1 bound
  constructor
  · exact logic
  · exact mode
  · exact conditions.imp fun _ _ given => ConditionRule.holds_iff_means given
  · exact effects.imp fun _ _ given => EffectRule.leadsTo_iff given

end Meaning

end BranchingStory
