import BranchingStory.Proofs.Notation.Depth
import BranchingStory.Proofs.Notation.Notated

/-!
# Rules read back

Values and the rules of events are read back as they were written.  A condition may hold
conditions, and reading goes only so deep; how deep a condition is nested is counted as
reading counts it, so that a condition that is nested deeper than that is always refused.
-/

namespace BranchingStory

open Decimal Notation

variable {plain : Binary64 → Prop} {levels : Nat}

/-! ## Values -/

/-- A value holds no number with a fraction but those that are let through. -/
def Value.Holds (plain : Binary64 → Prop) (value : Value) : Prop :=
  ∀ number, value = .float number → plain number

theorem Value.said {value : Value} (holds : value.Holds plain) :
    Says plain (levels + 2) value (toDatum value) := by
  cases value with
  | string text => exact ⟨fun _ => .holding (by decide) rfl (.text text), rfl⟩
  | float number => exact ⟨fun _ => .holding (by decide) rfl (.float (holds number rfl)), rfl⟩
  | int number =>
      have inner : Says plain levels number (toDatum number) := said_int64 number
      exact ⟨fun _ => .holding (by decide) rfl (inner.fits _),
        congrArg (Option.map Value.int) inner.returns⟩
  | bool truth => exact ⟨fun _ => .holding (by decide) rfl (.truth truth), rfl⟩

/-! ## Conditions -/

/-- How deep a condition is nested where it is read. -/
def ConditionRule.depth : ConditionRule → Nat
  | .flag _ | .atLeast _ _ | .atMost _ _ => 3
  | .equals _ _ => 5
  | .not rule => rule.depth + 2
  | .host _ => 2

/-- Every number with a fraction is let through. -/
def anyNumber : Binary64 → Prop := fun _ => True

theorem Value.said_any (value : Value) : Says anyNumber (levels + 2) value (toDatum value) :=
  said fun _ _ => trivial

theorem ConditionRule.said (rule : ConditionRule) :
    Says anyNumber rule.depth rule (toDatum rule) := by
  constructor
  · intro around
    induction rule generalizing around with
    | flag key =>
        exact .having (by decide) rfl ⟨rfl, by decide, by decide⟩
          (EachFits.cons ((said_string key).fits _) .nil)
    | equals key value =>
        exact .having (by decide) rfl ⟨rfl, by decide, by decide⟩
          (EachFits.cons ((said_string key).fits _) <| .cons (value.said_any.fits _) .nil)
    | atLeast key threshold | atMost key threshold =>
        exact .having (by decide) rfl ⟨rfl, by decide, by decide⟩
          (EachFits.cons ((said_string key).fits _) <|
            .cons ((said_int64 threshold).fits _) .nil)
    | not rule inner => exact .holding (by decide) rfl (.enclosing (inner _))
    | host name => exact .holding (by decide) rfl ((said_string name).fits _)
  · induction rule with
    | flag key => rfl
    | equals key value =>
        have inner : Says anyNumber 2 value (toDatum value) := value.said_any
        show (do
          let value ← Notated.ofDatum? (toDatum value)
          return ConditionRule.equals key value) = some (ConditionRule.equals key value)
        rw [inner.returns]
        rfl
    | atLeast key threshold =>
        have inner : Says anyNumber 0 threshold (toDatum threshold) := said_int64 threshold
        show (do
          let threshold ← Notated.ofDatum? (toDatum threshold)
          return ConditionRule.atLeast key threshold) = some (ConditionRule.atLeast key threshold)
        rw [inner.returns]
        rfl
    | atMost key threshold =>
        have inner : Says anyNumber 0 threshold (toDatum threshold) := said_int64 threshold
        show (do
          let threshold ← Notated.ofDatum? (toDatum threshold)
          return ConditionRule.atMost key threshold) = some (ConditionRule.atMost key threshold)
        rw [inner.returns]
        rfl
    | not rule inner => exact congrArg (Option.map ConditionRule.not) inner
    | host name => rfl

/-! ## Conditions that are nested too deep -/

namespace ConditionRule

variable {implicit : Bool} {around : Shape}

/-- The value that a condition compares with lies five levels down. -/
theorem readDatum_equals_tooDeep {levels : Nat} (shallow : levels < 5) (key : String)
    (value : Value) (rest : List Char) :
    readDatum implicit levels around (Notated.shape ConditionRule)
      (print (toDatum (equals key value)) ++ rest) = .error .tooDeep := by
  have begins : Begins (separatedByCommas
      (printFields [("key", .text key), ("value", toDatum value)])) := rfl
  rcases Nat.lt_or_ge levels 3 with less | enough
  · exact readDatum_having_tooDeep less (by decide) rfl begins
  · obtain ⟨inside, rfl⟩ : ∃ inside, levels = inside + 3 := ⟨levels - 3, by omega⟩
    have few : inside < 2 := Nat.lt_of_add_lt_add_right shallow
    have text : print (toDatum (equals key value)) ++ rest =
        "Equals".toList ++ '(' :: ("key".toList ++ ':' :: (print (.text key) ++
          ',' :: ("value".toList ++ ':' :: (print (toDatum value) ++ ')' :: rest)))) := by
      show print (.having "Equals" [("key", .text key), ("value", toDatum value)]) ++ rest = _
      simp [separatedByCommas]
    have valueSays : Says anyNumber 2 value (toDatum value) := value.said_any
    have keySays : Says anyNumber inside key (toDatum key) := said_string key
    have valueRefused : readDatum implicit inside (Notated.shape ConditionRule)
        (Notated.shape Value) (print (toDatum value) ++ ')' :: rest) = .error .tooDeep :=
      readDatum_case_tooDeep few
    let fields : List Field := [.required "key" .text, .required "value" (Notated.shape Value)]
    have legible : Legible (readDatum implicit inside (Notated.shape ConditionRule)) fields
        ("key", .text key) :=
      ⟨show isWord "key" = true by decide, keySays.begins, _, rfl,
        readDatum_print (keySays.fits _)⟩
    have known : fields.find? (fun field => field.name == "value") =
        some (.required "value" (Notated.shape Value)) := rfl
    rw [text]
    refine readDatum_alternative.trans (readCase_having_refused (by omega) (by decide) rfl
      (readFieldList_refused (by omega) ?_))
    exact readFields_second_refused (by omega) legible (by decide) valueSays.begins.append known
      (by decide) valueRefused (by simp)

/-- A condition is refused where there are fewer levels than it is deep. -/
theorem readDatum_tooDeep (rule : ConditionRule) {levels : Nat} (shallow : levels < rule.depth)
    (rest : List Char) :
    readDatum implicit levels around (Notated.shape ConditionRule)
      (print (toDatum rule) ++ rest) = .error .tooDeep := by
  induction rule generalizing levels around rest with
  | flag key =>
      have begins : Begins (separatedByCommas (printFields [("key", .text key)])) := rfl
      exact readDatum_having_tooDeep shallow (by decide) rfl begins
  | atLeast key threshold | atMost key threshold =>
      have begins : Begins (separatedByCommas
          (printFields [("key", .text key), ("value", toDatum threshold)])) := rfl
      exact readDatum_having_tooDeep shallow (by decide) rfl begins
  | equals key value => exact readDatum_equals_tooDeep shallow key value rest
  | host name => exact readDatum_case_tooDeep shallow
  | not rule inner =>
      rcases Nat.lt_or_ge levels 2 with less | enough
      · exact readDatum_case_tooDeep less
      · obtain ⟨inside, rfl⟩ : ∃ inside, levels = inside + 2 := ⟨levels - 2, by omega⟩
        have deeper : inside < rule.depth := Nat.lt_of_add_lt_add_right shallow
        have text : print (toDatum rule.not) ++ rest =
            "Not".toList ++ '(' :: (print (toDatum rule) ++ ')' :: rest) := by
          show print (.holding "Not" (toDatum rule)) ++ rest = _
          simp
        obtain ⟨three, step⟩ := exists_readDatum_alternative implicit inside around _ _
        rw [text]
        refine (congrFun step _).trans (readCase_holding_refused (by omega) (by decide) rfl
          rule.said.begins.append ?_)
        exact readDatum_enclosing.trans (inner deeper _)

/-- A text in which a condition is nested deeper than reading goes is refused. -/
theorem readAs_tooDeep {rule : ConditionRule} (deeper : greatestDepth < rule.depth) :
    readAs ConditionRule (write rule) = .error .tooDeep := by
  have refused : readDatum false greatestDepth .enclosing (Notated.shape ConditionRule)
      (print (toDatum rule) ++ []) = .error .tooDeep := rule.readDatum_tooDeep deeper []
  rw [List.append_nil] at refused
  rw [readAs, write, read_of_begins rule.said.begins, refused]
  rfl

/-- A condition is read back exactly where it is not nested deeper than reading goes. -/
theorem readAs_write_iff (rule : ConditionRule) :
    readAs ConditionRule (write rule) = .ok rule ↔ rule.depth ≤ greatestDepth := by
  constructor
  · intro back
    rw [← Nat.not_lt]
    intro deeper
    rw [readAs_tooDeep deeper] at back
    contradiction
  · exact fun enough => readAs_print (rule.said.mono enough)

end ConditionRule

/-! ## Effects -/

theorem EffectRule.said (rule : EffectRule) : Says anyNumber 5 rule (toDatum rule) := by
  cases rule with
  | set key value =>
      have inner : Says anyNumber 2 value (toDatum value) := value.said_any
      refine ⟨fun around => ?_, ?_⟩
      · exact .having (by decide) rfl ⟨rfl, by decide, by decide⟩
          (EachFits.cons ((said_string key).fits _) <| .cons (inner.fits _) .nil)
      · show (do
          let value ← ofDatum? (toDatum value)
          return EffectRule.set key value) = some (EffectRule.set key value)
        rw [inner.returns]
        rfl
  | add key amount =>
      have inner : Says anyNumber 2 amount (toDatum amount) := said_int64 amount
      refine ⟨fun around => ?_, ?_⟩
      · exact .having (by decide) rfl ⟨rfl, by decide, by decide⟩
          (EachFits.cons ((said_string key).fits _) <| .cons (inner.fits _) .nil)
      · show (do
          let amount ← ofDatum? (toDatum amount)
          return EffectRule.add key amount) = some (EffectRule.add key amount)
        rw [inner.returns]
        rfl
  | toggle key =>
      exact ⟨fun _ => .having (by decide) rfl ⟨rfl, by decide, by decide⟩
        (EachFits.cons ((said_string key).fits _) .nil), rfl⟩
  | host name => exact ⟨fun _ => .holding (by decide) rfl ((said_string name).fits _), rfl⟩

end BranchingStory
