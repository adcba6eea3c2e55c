import Mathlib.Data.List.Forall2
import BranchingStory.Event.Binding

/-!
# What binding an event gives

Binding goes rule by rule: an event is bound exactly when each of its conditions and effects
is, and the bound event has them in the order in which they were written.  Its id is the one
under which it is bound, and its tags are those of the body.  Nothing is lost on the way: a
bound event without what the host does is the body again.
-/

namespace BranchingStory

variable {σ : Type}

/-- A condition as an author writes it, without what the host does. -/
def Condition.rule : Condition σ → ConditionRule
  | .flag key => .flag key
  | .equals key value => .equals key value
  | .atLeast key threshold => .atLeast key threshold
  | .atMost key threshold => .atMost key threshold
  | .not condition => .not condition.rule
  | .host name _ => .host name

/-- An effect as an author writes it, without what the host does. -/
def Effect.rule : Effect σ → EffectRule
  | .set key value => .set key value
  | .add key amount => .add key amount
  | .toggle key => .toggle key
  | .host name _ => .host name

/-- An event as an author writes it, without what the host does and without its id. -/
def Event.body (event : Event σ) : EventBody :=
  ⟨event.logic, event.mode, event.conditions.map Condition.rule, event.effects.map Effect.rule⟩

/-- A computation on each item of a list succeeds with what it gives on the single ones. -/
theorem Except.mapM_eq_ok_iff {α β ε : Type} {f : α → Except ε β} {items : List α}
    {results : List β} :
    items.mapM f = .ok results ↔
      List.Forall₂ (fun item result => f item = .ok result) items results := by
  induction items generalizing results with
  | nil =>
      rw [List.mapM_nil]
      constructor
      · rintro ⟨⟩
        exact .nil
      · rintro ⟨⟩
        rfl
  | cons item items ih =>
      rw [List.mapM_cons]
      cases first : f item with
      | error error =>
          constructor
          · intro accepted
            cases accepted
          · rintro (_ | ⟨given, _⟩)
            cases first.symm.trans given
      | ok head =>
          cases rest : items.mapM f with
          | error error =>
              constructor
              · intro accepted
                cases accepted
              · rintro (_ | ⟨_, others⟩)
                cases rest.symm.trans (ih.2 others)
          | ok tail =>
              constructor
              · intro accepted
                cases accepted
                exact .cons first (ih.1 rest)
              · rintro (_ | ⟨given, others⟩)
                cases first.symm.trans given
                cases rest.symm.trans (ih.2 others)
                rfl

/-- Such a computation succeeds if it does on each item. -/
theorem Except.exists_mapM_iff {α β ε : Type} {f : α → Except ε β} {items : List α} :
    (∃ results, items.mapM f = .ok results) ↔ ∀ item ∈ items, ∃ result, f item = .ok result := by
  simp only [Except.mapM_eq_ok_iff]
  induction items with
  | nil => exact ⟨fun _ _ member => by contradiction, fun _ => ⟨[], .nil⟩⟩
  | cons item items ih =>
      rw [List.forall_mem_cons, ← ih]
      constructor
      · rintro ⟨_, _ | ⟨given, others⟩⟩
        exact ⟨⟨_, given⟩, _, others⟩
      · rintro ⟨⟨_, given⟩, _, others⟩
        exact ⟨_, .cons given others⟩

/-- Each result is that of one of the items. -/
theorem Except.exists_of_mapM {α β ε : Type} {f : α → Except ε β} {items : List α}
    {results : List β} (succeeded : items.mapM f = .ok results) {result : β}
    (member : result ∈ results) : ∃ item ∈ items, f item = .ok result := by
  have paired := Except.mapM_eq_ok_iff.1 succeeded
  clear succeeded
  induction paired with
  | nil => contradiction
  | @cons item _ items _ given _ ih =>
      rcases List.mem_cons.1 member with rfl | later
      · exact ⟨item, List.mem_cons_self, given⟩
      · obtain ⟨other, listed, given⟩ := ih later
        exact ⟨other, List.mem_cons_of_mem _ listed, given⟩

/-- An error comes from one of the items. -/
theorem Except.exists_error_of_mapM {α β ε : Type} {f : α → Except ε β} {items : List α}
    {error : ε} (failed : items.mapM f = .error error) : ∃ item ∈ items, f item = .error error := by
  induction items with
  | nil =>
      rw [List.mapM_nil] at failed
      cases failed
  | cons item items ih =>
      rw [List.mapM_cons] at failed
      cases first : f item with
      | error early =>
          rw [first] at failed
          cases failed
          exact ⟨item, List.mem_cons_self, first⟩
      | ok head =>
          cases rest : items.mapM f with
          | error late =>
              rw [first, rest] at failed
              cases failed
              obtain ⟨other, listed, given⟩ := ih rest
              exact ⟨other, List.mem_cons_of_mem _ listed, given⟩
          | ok tail =>
              rw [first, rest] at failed
              cases failed

section

variable {bindings : HostBindings σ}

theorem ConditionRule.bind_not_ok_iff {rule : ConditionRule} {condition : Condition σ} :
    (ConditionRule.not rule).bind bindings = .ok condition ↔
      ∃ negated, rule.bind bindings = .ok negated ∧ condition = .not negated := by
  rw [ConditionRule.bind]
  cases rule.bind bindings with
  | error error =>
      constructor
      · rintro ⟨⟩
      · rintro ⟨_, ⟨⟩, _⟩
  | ok negated =>
      constructor
      · rintro ⟨⟩
        exact ⟨negated, rfl, rfl⟩
      · rintro ⟨_, ⟨⟩, rfl⟩
        rfl

theorem ConditionRule.bind_not_error_iff {rule : ConditionRule} {error : StoryError} :
    (ConditionRule.not rule).bind bindings = .error error ↔
      rule.bind bindings = .error error := by
  rw [ConditionRule.bind]
  cases rule.bind bindings with
  | error first =>
      constructor
      · rintro ⟨⟩
        rfl
      · rintro ⟨⟩
        rfl
  | ok negated =>
      constructor
      · rintro ⟨⟩
      · rintro ⟨⟩

theorem ConditionRule.bind_host_ok_iff {name : String} {condition : Condition σ} :
    (ConditionRule.host name).bind bindings = .ok condition ↔
      ∃ holds, bindings.conditions[name]? = some holds ∧ condition = .host name holds := by
  rw [ConditionRule.bind]
  cases bindings.conditions[name]? with
  | none =>
      constructor
      · rintro ⟨⟩
      · rintro ⟨_, ⟨⟩, _⟩
  | some holds =>
      constructor
      · rintro ⟨⟩
        exact ⟨holds, rfl, rfl⟩
      · rintro ⟨_, ⟨⟩, rfl⟩
        rfl

theorem ConditionRule.bind_host_error_iff {name : String} {error : StoryError} :
    (ConditionRule.host name).bind bindings = .error error ↔
      bindings.conditions[name]? = none ∧ error = .unknownHostBinding name := by
  rw [ConditionRule.bind]
  cases bindings.conditions[name]? with
  | none =>
      constructor
      · rintro ⟨⟩
        exact ⟨rfl, rfl⟩
      · rintro ⟨_, rfl⟩
        rfl
  | some holds =>
      constructor
      · rintro ⟨⟩
      · rintro ⟨⟨⟩, _⟩

theorem EffectRule.bind_host_ok_iff {name : String} {effect : Effect σ} :
    (EffectRule.host name).bind bindings = .ok effect ↔
      ∃ apply, bindings.effects[name]? = some apply ∧ effect = .host name apply := by
  rw [EffectRule.bind]
  cases bindings.effects[name]? with
  | none =>
      constructor
      · rintro ⟨⟩
      · rintro ⟨_, ⟨⟩, _⟩
  | some apply =>
      constructor
      · rintro ⟨⟩
        exact ⟨apply, rfl, rfl⟩
      · rintro ⟨_, ⟨⟩, rfl⟩
        rfl

theorem EffectRule.bind_host_error_iff {name : String} {error : StoryError} :
    (EffectRule.host name).bind bindings = .error error ↔
      bindings.effects[name]? = none ∧ error = .unknownHostBinding name := by
  rw [EffectRule.bind]
  cases bindings.effects[name]? with
  | none =>
      constructor
      · rintro ⟨⟩
        exact ⟨rfl, rfl⟩
      · rintro ⟨_, rfl⟩
        rfl
  | some apply =>
      constructor
      · rintro ⟨⟩
      · rintro ⟨⟨⟩, _⟩

theorem ConditionRule.rule_of_bind {rule : ConditionRule} {condition : Condition σ}
    (bound : rule.bind bindings = .ok condition) : condition.rule = rule := by
  induction rule generalizing condition with
  | flag key =>
      cases bound
      rfl
  | equals key value =>
      cases bound
      rfl
  | atLeast key threshold =>
      cases bound
      rfl
  | atMost key threshold =>
      cases bound
      rfl
  | not rule ih =>
      obtain ⟨negated, inner, rfl⟩ := bind_not_ok_iff.1 bound
      exact congrArg ConditionRule.not (ih inner)
  | host name =>
      obtain ⟨holds, _, rfl⟩ := bind_host_ok_iff.1 bound
      rfl

theorem EffectRule.rule_of_bind {rule : EffectRule} {effect : Effect σ}
    (bound : rule.bind bindings = .ok effect) : effect.rule = rule := by
  cases rule with
  | set key value =>
      cases bound
      rfl
  | add key amount =>
      cases bound
      rfl
  | toggle key =>
      cases bound
      rfl
  | host name =>
      obtain ⟨apply, _, rfl⟩ := bind_host_ok_iff.1 bound
      rfl

/-- What can be bound without a host does not depend on the states of a host. -/
theorem ConditionRule.exists_bind_none {τ : Type} {rule : ConditionRule}
    {condition : Condition σ} (bound : rule.bind .none = .ok condition) :
    ∃ other : Condition τ, rule.bind .none = .ok other := by
  induction rule generalizing condition with
  | flag key => exact ⟨_, rfl⟩
  | equals key value => exact ⟨_, rfl⟩
  | atLeast key threshold => exact ⟨_, rfl⟩
  | atMost key threshold => exact ⟨_, rfl⟩
  | not rule ih =>
      obtain ⟨negated, inner, rfl⟩ := bind_not_ok_iff.1 bound
      obtain ⟨other, again⟩ := ih inner
      exact ⟨.not other, bind_not_ok_iff.2 ⟨other, again, rfl⟩⟩
  | host name => simp [ConditionRule.bind, HostBindings.none] at bound

theorem EffectRule.exists_bind_none {τ : Type} {rule : EffectRule} {effect : Effect σ}
    (bound : rule.bind .none = .ok effect) :
    ∃ other : Effect τ, rule.bind .none = .ok other := by
  cases rule with
  | set key value => exact ⟨_, rfl⟩
  | add key amount => exact ⟨_, rfl⟩
  | toggle key => exact ⟨_, rfl⟩
  | host name => simp [EffectRule.bind, HostBindings.none] at bound

end

namespace EventBody

variable {bindings : HostBindings σ} {body : EventBody} {id : String} {event : Event σ}

theorem bind_ok_iff :
    body.bind bindings id = .ok event ↔
      event.id = id ∧ event.logic = body.logic ∧ event.mode = body.mode ∧
      List.Forall₂ (fun rule condition => rule.bind bindings = .ok condition)
        body.conditions event.conditions ∧
      List.Forall₂ (fun rule effect => rule.bind bindings = .ok effect)
        body.results event.effects := by
  rw [← Except.mapM_eq_ok_iff, ← Except.mapM_eq_ok_iff]
  unfold EventBody.bind
  cases held : body.conditions.mapM (ConditionRule.bind bindings) with
  | error error =>
      constructor
      · rintro ⟨⟩
      · rintro ⟨_, _, _, ⟨⟩, _⟩
  | ok conditions =>
      cases done : body.results.mapM (EffectRule.bind bindings) with
      | error error =>
          constructor
          · rintro ⟨⟩
          · rintro ⟨_, _, _, _, ⟨⟩⟩
      | ok effects =>
          constructor
          · rintro ⟨⟩
            exact ⟨rfl, rfl, rfl, rfl, rfl⟩
          · obtain ⟨_, _, _, _, _⟩ := event
            rintro ⟨⟨⟩, ⟨⟩, ⟨⟩, ⟨⟩, ⟨⟩⟩
            rfl

/-- An event that cannot be bound fails as one of its conditions or effects does. -/
theorem exists_bind_error {error : StoryError} (refused : body.bind bindings id = .error error) :
    (∃ rule ∈ body.conditions, rule.bind bindings = .error error) ∨
      ∃ rule ∈ body.results, rule.bind bindings = .error error := by
  unfold EventBody.bind at refused
  cases held : body.conditions.mapM (ConditionRule.bind bindings) with
  | error first =>
      rw [held] at refused
      cases refused
      exact .inl (Except.exists_error_of_mapM held)
  | ok conditions =>
      cases done : body.results.mapM (EffectRule.bind bindings) with
      | error first =>
          rw [held, done] at refused
          cases refused
          exact .inr (Except.exists_error_of_mapM done)
      | ok effects =>
          rw [held, done] at refused
          cases refused

theorem bind_id (bound : body.bind bindings id = .ok event) : event.id = id :=
  (bind_ok_iff.1 bound).1

theorem exists_bind_iff :
    (∃ event, body.bind bindings id = .ok event) ↔
      (∀ rule ∈ body.conditions, ∃ condition, rule.bind bindings = .ok condition) ∧
      ∀ rule ∈ body.results, ∃ effect, rule.bind bindings = .ok effect := by
  simp only [← Except.exists_mapM_iff, Except.mapM_eq_ok_iff, bind_ok_iff]
  constructor
  · rintro ⟨event, _, _, _, conditions, effects⟩
    exact ⟨⟨_, conditions⟩, _, effects⟩
  · rintro ⟨⟨_, conditions⟩, _, effects⟩
    exact ⟨⟨id, body.logic, body.mode, _, _⟩, rfl, rfl, rfl, conditions, effects⟩

theorem exists_bind_none {τ : Type} (bound : body.bind .none id = .ok event) :
    ∃ other : Event τ, body.bind .none id = .ok other := by
  obtain ⟨conditions, effects⟩ := exists_bind_iff.1 ⟨event, bound⟩
  rw [exists_bind_iff]
  constructor
  · intro rule member
    obtain ⟨_, given⟩ := conditions rule member
    exact ConditionRule.exists_bind_none given
  · intro rule member
    obtain ⟨_, given⟩ := effects rule member
    exact EffectRule.exists_bind_none given

/-- A bound event is the body that was bound, word for word. -/
theorem body_of_bind (bound : body.bind bindings id = .ok event) : event.body = body := by
  obtain ⟨_, logic, mode, conditions, effects⟩ := bind_ok_iff.1 bound
  have held : event.conditions.map Condition.rule = body.conditions := by
    rw [← List.forall₂_eq_eq_eq, List.forall₂_map_left_iff]
    exact (conditions.imp fun _ _ given => ConditionRule.rule_of_bind given).flip
  have done : event.effects.map Effect.rule = body.results := by
    rw [← List.forall₂_eq_eq_eq, List.forall₂_map_left_iff]
    exact (effects.imp fun _ _ given => EffectRule.rule_of_bind given).flip
  rw [Event.body, logic, mode, held, done]

end EventBody

end BranchingStory
