import BranchingStory.Event.Evaluator
import BranchingStory.Package
import BranchingStory.Text.Quoted

/-!
# Binding rules to a host

A host supplies named conditions and effects. Binding replaces every name in a rule by
what the host has under it and fails at the first name that the host does not have.
-/

namespace BranchingStory

/-- The conditions and effects that a host supplies under names. -/
structure HostBindings (σ : Type) where
  conditions : Table (σ → Bool)
  effects : Table (σ → σ)

namespace HostBindings

/-- A host that supplies nothing. -/
def none {σ : Type} : HostBindings σ := ⟨∅, ∅⟩

end HostBindings

variable {σ : Type}

/-- Binds a condition to a host. -/
def ConditionRule.bind (bindings : HostBindings σ) :
    ConditionRule → Except StoryError (Condition σ)
  | .flag key => .ok (.flag key)
  | .equals key value => .ok (.equals key value)
  | .atLeast key threshold => .ok (.atLeast key threshold)
  | .atMost key threshold => .ok (.atMost key threshold)
  | .not rule => do return .not (← rule.bind bindings)
  | .host name =>
      match bindings.conditions[name]? with
      | some holds => .ok (.host name holds)
      | .none => .error (.unknownHostBinding name)

/-- Binds an effect to a host. -/
def EffectRule.bind (bindings : HostBindings σ) : EffectRule → Except StoryError (Effect σ)
  | .set key value => .ok (.set key value)
  | .add key amount => .ok (.add key amount)
  | .toggle key => .ok (.toggle key)
  | .host name =>
      match bindings.effects[name]? with
      | some apply => .ok (.host name apply)
      | .none => .error (.unknownHostBinding name)

/-- Binds the rules of an event to a host, its conditions before its effects. -/
def EventBody.bind (bindings : HostBindings σ) (id : String) (body : EventBody) :
    Except StoryError (Event σ) := do
  let conditions ← body.conditions.mapM (ConditionRule.bind bindings)
  let effects ← body.results.mapM (EffectRule.bind bindings)
  return ⟨id, body.logic, body.mode, conditions, effects⟩

/-- How a named condition of a host is shown in a trace. -/
def hostConditionText (name : String) : String :=
  "FnCondition \x7b name: " ++ String.ofList (Text.Quoted.encodeSparingApostrophe name) ++
    " \x7d"

/-- How a named effect of a host is shown in a trace. -/
def hostEffectText (name : String) : String :=
  "FnEffect \x7b name: " ++ String.ofList (Text.Quoted.encodeSparingApostrophe name) ++
    " \x7d"

end BranchingStory
