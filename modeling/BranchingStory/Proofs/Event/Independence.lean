import BranchingStory.Proofs.Event.Application
import BranchingStory.Proofs.Event.Binding

/-!
# Effects act on one variable each

Apart from those of the host an effect reads and sets a single variable.  A number of such
effects can therefore be followed one variable at a time: its value at the end is what the
effects on it make of its value at the beginning, one after another.  Effects on different
variables do not meet, and where no two effects share a variable their order is of no
consequence.
-/

namespace BranchingStory

namespace Effect

variable {σ : Type}

/-- The variable that an effect reads and sets.  What an effect of the host does is up to
the host. -/
def key? : Effect σ → Option String
  | .set key _ | .add key _ | .toggle key => some key
  | .host _ _ => none

/-- What an effect makes of the value of its variable. -/
def revise (held : Option Value) : Effect σ → Option Value
  | .set _ value => some value
  | .add key amount => some (.int (addedTo key ((held.bind Value.asInt?).getD 0) amount))
  | .toggle _ => some (.bool !(held.any Value.isTruthy))
  | .host _ _ => held

/-- The effects on a variable. -/
def onKey (key : String) (effects : List (Effect σ)) : List (Effect σ) :=
  effects.filter fun effect => effect.key? = some key

theorem onKey_cons_of_eq {effect : Effect σ} {key : String} (named : effect.key? = some key)
    (effects : List (Effect σ)) :
    onKey key (effect :: effects) = effect :: onKey key effects :=
  List.filter_cons_of_pos (decide_eq_true named)

theorem onKey_cons_of_ne {effect : Effect σ} {key : String} (other : effect.key? ≠ some key)
    (effects : List (Effect σ)) : onKey key (effect :: effects) = onKey key effects :=
  List.filter_cons_of_neg fun named => other (of_decide_eq_true named)

/-- Every effect has a variable: none of them is the host's. -/
def Own (effects : List (Effect σ)) : Prop :=
  ∀ effect ∈ effects, ∃ key, effect.key? = some key

/-- No two effects have the same variable. -/
def Apart (effects : List (Effect σ)) : Prop :=
  effects.Pairwise fun left right => left.key? ≠ right.key?

/-! ## One variable at a time -/

variable {state : Variables} {effect : Effect Variables} {effects : List (Effect Variables)}
variable {key : String}

/-- An effect sets its variable, to what it makes of the value that the variable has. -/
theorem exists_apply_eq_set (named : effect.key? = some key) (state : Variables) :
    ∃ value, effect.apply state = state.set key value ∧
      effect.revise (state.get? key) = some value := by
  cases effect with
  | set name value =>
      cases named
      exact ⟨_, rfl, rfl⟩
  | add name amount =>
      cases named
      exact ⟨_, rfl, rfl⟩
  | toggle name =>
      cases named
      exact ⟨_, rfl, rfl⟩
  | host name apply => contradiction

theorem get?_apply_of_eq (named : effect.key? = some key) (state : Variables) :
    (effect.apply state).get? key = effect.revise (state.get? key) := by
  obtain ⟨value, applied, revised⟩ := exists_apply_eq_set named state
  rw [applied, revised, Variables.get?_set, if_pos rfl]

theorem get?_apply_of_ne {name : String} (named : effect.key? = some name)
    (other : name ≠ key) (state : Variables) :
    (effect.apply state).get? key = state.get? key := by
  obtain ⟨value, applied, _⟩ := exists_apply_eq_set named state
  rw [applied, Variables.get?_set, if_neg other]

/-- The value of a variable is what the effects on it make of it, whatever the other
effects do in between. -/
theorem get?_applyAll (own : Own effects) (state : Variables) (key : String) :
    (applyAll state effects).get? key =
      (onKey key effects).foldl revise (state.get? key) := by
  induction effects generalizing state with
  | nil => rfl
  | cons effect effects ih =>
      obtain ⟨⟨name, named⟩, others⟩ := List.forall_mem_cons.1 own
      have rest : (applyAll state (effect :: effects)).get? key =
          (onKey key effects).foldl revise ((effect.apply state).get? key) :=
        ih others (effect.apply state)
      by_cases same : name = key
      · subst same
        rw [rest, onKey_cons_of_eq named, List.foldl_cons, get?_apply_of_eq named]
      · have other : effect.key? ≠ some key := by
          rw [named]
          exact fun equal => same (Option.some.inj equal)
        rw [rest, onKey_cons_of_ne other, get?_apply_of_ne named same]

/-! ## Effects in another order -/

theorem Own.of_perm {ran : List (Effect Variables)} (own : Own effects)
    (perm : ran.Perm effects) : Own ran :=
  fun effect member => own effect (perm.mem_iff.1 member)

theorem Apart.length_onKey_le (apart : Apart effects) (key : String) :
    (onKey key effects).length ≤ 1 := by
  have distinct : (onKey key effects).Pairwise fun left right => left.key? ≠ right.key? :=
    apart.filter _
  have named : ∀ effect ∈ onKey key effects, effect.key? = some key := by
    intro effect member
    exact of_decide_eq_true (List.mem_filter.1 member).2
  match onKey key effects, distinct, named with
  | [], _, _ => exact Nat.zero_le 1
  | [_], _, _ => exact Nat.le_refl 1
  | first :: second :: _, distinct, named =>
      have different := List.rel_of_pairwise_cons distinct List.mem_cons_self
      rw [named first List.mem_cons_self,
        named second (List.mem_cons_of_mem _ List.mem_cons_self)] at different
      exact absurd rfl different

theorem Apart.onKey_eq_of_perm (apart : Apart effects) {ran : List (Effect Variables)}
    (perm : ran.Perm effects) (key : String) : onKey key ran = onKey key effects := by
  have permuted : (onKey key ran).Perm (onKey key effects) := perm.filter _
  have few := apart.length_onKey_le key
  match onKey key effects, few, permuted with
  | [], _, permuted => exact permuted.eq_nil
  | [_], _, permuted => exact permuted.eq_singleton
  | _ :: _ :: _, few, _ => exact absurd few (by simp)

/-- Where no two effects share a variable, their order is of no consequence. -/
theorem applyAll_eq_of_perm (own : Own effects) (apart : Apart effects)
    {ran : List (Effect Variables)} (perm : ran.Perm effects) (state : Variables) :
    applyAll state ran = applyAll state effects := by
  apply Variables.ext_get?
  intro key
  rw [get?_applyAll (own.of_perm perm), get?_applyAll own, apart.onKey_eq_of_perm perm]

end Effect

/-! ## Events without effects of the host -/

section Bind

variable {σ : Type} {bindings : HostBindings σ}

theorem EffectRule.bind_own {rule : EffectRule} (own : ∀ name, rule ≠ .host name)
    {effect : Effect σ} (bound : rule.bind bindings = .ok effect) :
    ∃ key, effect.key? = some key := by
  cases rule with
  | set key value =>
      cases bound
      exact ⟨key, rfl⟩
  | add key amount =>
      cases bound
      exact ⟨key, rfl⟩
  | toggle key =>
      cases bound
      exact ⟨key, rfl⟩
  | host name => exact absurd rfl (own name)

/-- An event is bound with its mode and with effects that come of binding its own. -/
theorem EventBody.bind_ok {body : EventBody} {id : String} {event : Event σ}
    (bound : body.bind bindings id = .ok event) :
    body.results.mapM (EffectRule.bind bindings) = .ok event.effects ∧
    ∀ mode, { body with mode }.bind bindings id = .ok { event with mode } := by
  obtain ⟨named, logic, _, conditions, effects⟩ := EventBody.bind_ok_iff.1 bound
  refine ⟨Except.mapM_eq_ok_iff.2 effects, ?_⟩
  intro mode
  exact EventBody.bind_ok_iff.2 ⟨named, logic, rfl, conditions, effects⟩

theorem EventBody.own_of_bind {body : EventBody}
    (own : ∀ rule ∈ body.results, ∀ name, rule ≠ .host name) {id : String} {event : Event σ}
    (bound : body.bind bindings id = .ok event) : Effect.Own event.effects := by
  intro effect member
  obtain ⟨rule, listed, given⟩ := Except.exists_of_mapM (bind_ok bound).1 member
  exact rule.bind_own (own rule listed) given

end Bind

namespace Event

/-- The effects that stand at the indices of an order are the effects in that order. -/
theorem perm_of_order {σ : Type} {event : Event σ} {order : List Nat}
    {ran : List (Effect σ)} (perm : order.Perm (List.range event.effects.length))
    (named : order.map (fun index => event.effects[index]?) = ran.map some) :
    ran.Perm event.effects := by
  have written : (List.range event.effects.length).map (fun index => event.effects[index]?) =
      event.effects.map some := by
    apply List.ext_getElem
    · simp
    · intro index _ _
      simp
  have permuted : (ran.map some).Perm (event.effects.map some) := by
    rw [← named, ← written]
    exact perm.map _
  have kept := permuted.filterMap fun found => found
  simpa [Function.comp_def] using kept

variable {event : Event Variables} {state : Variables}

/-- An event fires in a state only if its tags are known and its conditions hold there. -/
theorem fires_of_apply {shuffle after : ShuffleState} {report : EventReport}
    {final : Variables} (applied : event.apply shuffle state = (.ok report, after, final))
    (fired : report.fired = true) : event.Playable ∧ event.Holds state := by
  have playable : event.Playable := by
    apply Classical.byContradiction
    intro unknown
    obtain ⟨error, refused⟩ := (event.apply_refused_iff shuffle state).2 unknown
    rw [applied] at refused
    contradiction
  refine ⟨playable, ?_⟩
  apply Classical.byContradiction
  intro idle
  rw [apply_of_not_holds playable idle] at applied
  cases applied
  contradiction

/-- An event that fires applies its effects in some order. -/
theorem exists_ran (shuffle : ShuffleState) (playable : event.Playable)
    (fires : event.Holds state) :
    ∃ report after ran,
      event.apply shuffle state = (.ok report, after, Effect.applyAll state ran) ∧
      report.applied.map (fun index => event.effects[index]?) = ran.map some ∧
      ran.Perm event.effects := by
  have perm := event.nextOrder_perm shuffle
  obtain ⟨ran, named, applied⟩ := event.applyInOrder_eq_applyAll state
    (fun index member => List.mem_range.1 (perm.mem_iff.1 member))
  have fired := apply_of_holds shuffle playable fires
  rw [applied] at fired
  exact ⟨_, _, ran, fired, named, perm_of_order perm named⟩

/-- An event without effects of the host acts on each variable by itself.  When it fires,
the value of a variable at the end is what those of the effects in the reported order that
name it make of its value at the beginning; one that none of them names is left as it was,
also if it was not set.  So if no two effects name the same variable, the random mode comes
to the same end with every shuffle state, and it is the end of the event in sequence. -/
theorem apply_by_key {body : EventBody}
    (own : ∀ rule ∈ body.results, ∀ name, rule ≠ .host name)
    {bindings : HostBindings Variables} {id : String}
    (bound : body.bind bindings id = .ok event) {shuffle after : ShuffleState}
    {report : EventReport} {final : Variables}
    (applied : event.apply shuffle state = (.ok report, after, final))
    (fired : report.fired = true) :
    (∃ ran, report.applied.map (fun index => event.effects[index]?) = ran.map some ∧
      ∀ key, final.get? key =
        (Effect.onKey key ran).foldl Effect.revise (state.get? key)) ∧
    (∀ key, (∀ effect ∈ event.effects, effect.key? ≠ some key) →
      final.get? key = state.get? key) ∧
    (Effect.Apart event.effects →
      (∀ other, ∃ report after, event.apply other state = (.ok report, after, final)) ∧
      ∃ plain, { body with mode := .sequential }.bind bindings id = .ok plain ∧
        ∀ other, ∃ report after, plain.apply other state = (.ok report, after, final)) := by
  have ownEffects : Effect.Own event.effects := EventBody.own_of_bind own bound
  obtain ⟨playable, fires⟩ := fires_of_apply applied fired
  obtain ⟨_, _, ran, same, named, perm⟩ := exists_ran shuffle playable fires
  rw [applied] at same
  cases same
  have byKey (key : String) := Effect.get?_applyAll (ownEffects.of_perm perm) state key
  refine ⟨⟨ran, named, byKey⟩, ?_, ?_⟩
  · intro key unnamed
    have none : Effect.onKey key ran = [] := by
      apply List.filter_eq_nil_iff.2
      intro effect member
      simp [unnamed effect (perm.mem_iff.1 member)]
    rw [byKey, none, List.foldl_nil]
  · intro apart
    -- In whatever order the effects are applied, it is that in which they are written.
    have inOrder := Effect.applyAll_eq_of_perm ownEffects apart perm state
    let plain : Event Variables := { event with mode := .sequential }
    refine ⟨?_, plain, (EventBody.bind_ok bound).2 .sequential, ?_⟩
    · intro other
      obtain ⟨report, after, again, applied, _, permuted⟩ := exists_ran other playable fires
      rw [Effect.applyAll_eq_of_perm ownEffects apart permuted, ← inOrder] at applied
      exact ⟨report, after, applied⟩
    · intro other
      have known : plain.Playable := ⟨playable.logic, fun _ => Mode.noConfusion⟩
      obtain ⟨report, after, again, applied, _, permuted⟩ := exists_ran other known fires
      rw [Effect.applyAll_eq_of_perm ownEffects apart permuted, ← inOrder] at applied
      exact ⟨report, after, applied⟩

end Event

namespace Sample

/-- An event whose effects name three variables, among them the score, in random order. -/
def tide : EventBody :=
  ⟨.or, .concurrent, [.flag "rope"],
    [.add responsibilityKey (-4), .toggle "lamp", .set "name" (.string "Mara")]⟩

def roped : Variables := (Variables.empty.withResponsibility 1).set "rope" (.bool true)

end Sample

/-- Whatever order is drawn, the score falls to the least, the lamp is lit, and a variable
that no effect names is as it was. -/
theorem Event.apply_by_key_tide :
    (∀ rule ∈ Sample.tide.results, ∀ name, rule ≠ .host name) ∧
    ∃ event, Sample.tide.bind .none "tide" = .ok event ∧
      ∃ report after final, event.apply ⟨5, 3⟩ Sample.roped = (.ok report, after, final) ∧
        report.fired = true ∧
        final.get? responsibilityKey = some (.int 0) ∧
        final.get? "lamp" = some (.bool true) ∧
        final.get? "rope" = Sample.roped.get? "rope" ∧
        ∀ other, ∃ report after, event.apply other Sample.roped = (.ok report, after, final) := by
  have own : ∀ rule ∈ Sample.tide.results, ∀ name, rule ≠ .host name := by
    simp [Sample.tide]
  let event : Event Variables := ⟨"tide", .or, .concurrent, [.flag "rope"],
    [.add responsibilityKey (-4), .toggle "lamp", .set "name" (.string "Mara")]⟩
  have bound : Sample.tide.bind .none "tide" = .ok event := by rfl
  have playable : event.Playable := ⟨fun _ => Logic.noConfusion, fun _ => Mode.noConfusion⟩
  have fires : event.Holds Sample.roped :=
    ⟨.flag "rope", List.mem_cons_self, by decide +kernel⟩
  have applied := apply_of_holds ⟨5, 3⟩ playable fires
  obtain ⟨_, unnamed, together⟩ := apply_by_key own bound applied rfl
  have apart : Effect.Apart event.effects := by
    simp [Effect.Apart, event, Effect.key?, responsibilityKey]
  obtain ⟨anyOrder, plain, inSequence, sameEnd⟩ := together apart
  obtain ⟨_, _, ended⟩ := sameEnd (.start 0)
  cases inSequence
  have final := congrArg (fun result => result.2.2) ended
  refine ⟨own, event, bound, _, _, _, applied, rfl, ?_, ?_, ?_, anyOrder⟩
  · refine (congrArg (Variables.get? · responsibilityKey) final).symm.trans ?_
    decide +kernel
  · refine (congrArg (Variables.get? · "lamp") final).symm.trans ?_
    decide +kernel
  · apply unnamed
    simp [event, Effect.key?, responsibilityKey]

end BranchingStory
