import BranchingStory.Proofs.Notation.Rules

/-!
# Stories and saves read back

Whatever a package file or a save holds is read back as it was written.  Only what the
notation cannot tell apart is left out: a tag that is kept as it is must not be one that is
recognized, and the conditions inside a condition must not be nested deeper than reading
goes.
-/

namespace BranchingStory

open Decimal Notation

variable {plain : Binary64 → Prop} {levels : Nat}

/-! ## Dialogues and choices -/

theorem said_optionalText (value : Option String) :
    Says plain (levels + 1) value (toDatum value) :=
  said_option rfl fun held _ => said_string held

theorem DialogueLine.said (line : DialogueLine) : Says plain 3 line (toDatum line) := by
  have text (value : String) : Says plain 1 value (toDatum value) := said_string value
  have optional (value : Option String) : Says plain 1 value (toDatum value) :=
    said_option rfl fun held _ => said_string held
  constructor
  · intro around
    refine .record ⟨rfl, by decide, by decide⟩ (EachFits.cons ((optional _).fits around) ?_)
    exact .cons ((text _).fits around) <| .cons ((text _).fits around) <|
      .cons ((text _).fits around) <| .cons ((optional _).fits around) <|
      .cons ((optional _).fits around) <| .cons ((optional _).fits around) <|
      .cons ((text _).fits around) .nil
  · show (do
      let key ← (ofDatum? (toDatum line.key) : Option (Option String))
      let speaker ← ofDatum? (toDatum line.speaker)
      let text ← ofDatum? (toDatum line.text)
      let effect ← ofDatum? (toDatum line.effect)
      let image ← ofDatum? (toDatum line.image)
      let sound ← ofDatum? (toDatum line.sound)
      let cutscene ← ofDatum? (toDatum line.cutscene)
      let next ← ofDatum? (toDatum line.next)
      return (⟨key, speaker, text, effect, image, sound, cutscene, next⟩ : DialogueLine)) =
        some line
    simp only [(text _).returns, (optional _).returns]
    rfl

theorem said_dialogueLines (lines : List DialogueLine) : Says plain 5 lines (toDatum lines) :=
  said_list fun line _ => line.said

theorem Dialogue.said (dialogue : Dialogue) : Says plain 7 dialogue (toDatum dialogue) := by
  have id : Says plain 5 dialogue.id (toDatum dialogue.id) := said_string _
  have entry : Says plain 5 dialogue.entry (toDatum dialogue.entry) := said_optionalText _
  have lines : Says plain 5 dialogue.lines (toDatum dialogue.lines) := said_dialogueLines _
  constructor
  · intro around
    exact .record ⟨rfl, by decide, by decide⟩ (EachFits.cons (id.fits around) <|
      .cons (entry.fits around) <| .cons (lines.fits around) .nil)
  · show (do
      let id ← ofDatum? (toDatum dialogue.id)
      let entry ← ofDatum? (toDatum dialogue.entry)
      let lines ← ofDatum? (toDatum dialogue.lines)
      return (⟨id, entry, lines⟩ : Dialogue)) = some dialogue
    rw [id.returns, entry.returns, lines.returns]
    rfl

theorem DialogueBody.said (body : DialogueBody) : Says plain 7 body (toDatum body) := by
  have entry : Says plain 5 body.entry (toDatum body.entry) := said_optionalText _
  have lines : Says plain 5 body.lines (toDatum body.lines) := said_dialogueLines _
  constructor
  · intro around
    exact .record ⟨rfl, by decide, by decide⟩
      (EachFits.cons (entry.fits around) <| .cons (lines.fits around) .nil)
  · show (do
      return (⟨← ofDatum? (toDatum body.entry), ← ofDatum? (toDatum body.lines)⟩ :
        DialogueBody)) = some body
    rw [entry.returns, lines.returns]
    rfl

theorem ChoiceLine.said (line : ChoiceLine) : Says plain 2 line (toDatum line) := by
  have text (value : String) : Says plain 0 value (toDatum value) := said_string value
  have skip : Says plain 0 line.tutorialSkip (toDatum line.tutorialSkip) := said_int32 _
  have gate : Says plain 0 line.minResponsibility (toDatum line.minResponsibility) :=
    said_int64 _
  constructor
  · intro around
    refine .record ⟨rfl, by decide, by decide⟩ (EachFits.cons ((text _).fits around) ?_)
    exact .cons ((text _).fits around) <| .cons ((text line.classification.tag).fits around) <|
      .cons (skip.fits around) <| .cons (gate.fits around) .nil
  · show (do
      let text ← ofDatum? (toDatum line.text)
      let next ← ofDatum? (toDatum line.next)
      let classification ← (ofDatum? (toDatum line.classification.tag)).map Classification.mk
      let tutorialSkip ← ofDatum? (toDatum line.tutorialSkip)
      let minResponsibility ← ofDatum? (toDatum line.minResponsibility)
      return (⟨text, next, classification, tutorialSkip, minResponsibility⟩ : ChoiceLine)) =
        some line
    rw [(text _).returns, (text _).returns, (text _).returns, skip.returns, gate.returns]
    rfl

theorem said_choiceLines (lines : List ChoiceLine) : Says plain 4 lines (toDatum lines) :=
  said_list fun line _ => line.said

theorem Choice.said (choice : Choice) : Says plain 6 choice (toDatum choice) := by
  have id : Says plain 4 choice.id (toDatum choice.id) := said_string _
  have lines : Says plain 4 choice.lines (toDatum choice.lines) := said_choiceLines _
  constructor
  · intro around
    exact .record ⟨rfl, by decide, by decide⟩
      (EachFits.cons (id.fits around) <| .cons (lines.fits around) .nil)
  · show (do
      return (⟨← ofDatum? (toDatum choice.id), ← ofDatum? (toDatum choice.lines)⟩ :
        Choice)) = some choice
    rw [id.returns, lines.returns]
    rfl

theorem ChoiceBody.said (body : ChoiceBody) : Says plain 6 body (toDatum body) := by
  have lines : Says plain 4 body.lines (toDatum body.lines) := said_choiceLines _
  constructor
  · intro around
    exact .record ⟨rfl, by decide, by decide⟩ (EachFits.cons (lines.fits around) .nil)
  · show (ofDatum? (toDatum body.lines)).map ChoiceBody.mk = some body
    rw [lines.returns]
    rfl

/-! ## Events -/

/-- A tag that is kept as it is is not one that is recognized. -/
def Logic.Canonical (logic : Logic) : Prop :=
  ∀ tag, logic = .unrecognized tag → tag ≠ "AND" ∧ tag ≠ "OR"

theorem Logic.said {logic : Logic} (canonical : logic.Canonical) :
    Says plain levels logic (toDatum logic) := by
  refine ⟨fun _ => .text logic.tag, ?_⟩
  show some (ofTag logic.tag) = some logic
  cases logic with
  | and | or => rfl
  | unrecognized tag =>
      obtain ⟨notAnd, notOr⟩ := canonical tag rfl
      rw [Logic.tag, ofTag, if_neg notAnd, if_neg notOr]

/-- A tag that is kept as it is is not one that is recognized. -/
def Mode.Canonical (mode : Mode) : Prop :=
  ∀ tag, mode = .unrecognized tag → tag ≠ "Sequential" ∧ tag ≠ "Concurrent"

theorem Mode.said {mode : Mode} (canonical : mode.Canonical) :
    Says plain levels mode (toDatum mode) := by
  refine ⟨fun _ => .text mode.tag, ?_⟩
  show some (ofTag mode.tag) = some mode
  cases mode with
  | sequential | concurrent => rfl
  | unrecognized tag =>
      obtain ⟨notSequential, notConcurrent⟩ := canonical tag rfl
      rw [Mode.tag, ofTag, if_neg notSequential, if_neg notConcurrent]

/-- What an event holds can be told apart where it is read inside so many levels. -/
structure EventBody.Readable (outer : Nat) (body : EventBody) : Prop where
  logic : body.logic.Canonical
  mode : body.mode.Canonical
  conditions : ∀ rule ∈ body.conditions, rule.depth + outer ≤ greatestDepth

theorem EventBody.said {body : EventBody} {outer : Nat} (room : outer + 5 ≤ greatestDepth)
    (readable : body.Readable outer) :
    Says anyNumber (greatestDepth - outer + 4) body (toDatum body) := by
  have logic : Says anyNumber (greatestDepth - outer + 2) body.logic (toDatum body.logic) :=
    Logic.said readable.logic
  have mode : Says anyNumber (greatestDepth - outer + 2) body.mode (toDatum body.mode) :=
    Mode.said readable.mode
  have conditions :
      Says anyNumber (greatestDepth - outer + 2) body.conditions (toDatum body.conditions) :=
    said_list fun rule member => rule.said.mono (by
      have shallow := readable.conditions rule member
      omega)
  have results :
      Says anyNumber (greatestDepth - outer + 2) body.results (toDatum body.results) :=
    said_list fun rule _ => rule.said.mono (by omega)
  constructor
  · intro around
    refine .record ⟨rfl, by decide, by decide⟩ (EachFits.cons (logic.fits around) ?_)
    exact .cons (mode.fits around) <| .cons (conditions.fits around) <|
      .cons (results.fits around) .nil
  · show (do
      let logic ← ofDatum? (toDatum body.logic)
      let mode ← ofDatum? (toDatum body.mode)
      let conditions ← ofDatum? (toDatum body.conditions)
      let results ← ofDatum? (toDatum body.results)
      return (⟨logic, mode, conditions, results⟩ : EventBody)) = some body
    rw [logic.returns, mode.returns, conditions.returns, results.returns]
    rfl

/-! ## Packages -/

/-- A package as a datum whose tables are listed in some order. -/
def Package.listed (dialogues : List (String × DialogueBody))
    (choices : List (String × ChoiceBody)) (events : List (String × EventBody)) : Datum :=
  .record
    [("dialogues", Notation.listing dialogues), ("choices", Notation.listing choices),
      ("events", Notation.listing events)]

theorem Package.said {package : Package} {dialogues : List (String × DialogueBody)}
    {choices : List (String × ChoiceBody)} {events : List (String × EventBody)}
    (dialoguesListed : dialogues.Perm package.dialogues.toList)
    (choicesListed : choices.Perm package.choices.toList)
    (eventsListed : events.Perm package.events.toList)
    (readable : ∀ (id : String) (body : EventBody), package.events[id]? = some body →
      body.Readable 8) :
    Says anyNumber greatestDepth package (listed dialogues choices events) := by
  have dialogueTable : Says anyNumber 126 package.dialogues (Notation.listing dialogues) :=
    said_table dialoguesListed fun entry _ => entry.2.said.mono (by decide)
  have choiceTable : Says anyNumber 126 package.choices (Notation.listing choices) :=
    said_table choicesListed fun entry _ => entry.2.said.mono (by decide)
  have eventTable : Says anyNumber 126 package.events (Notation.listing events) := by
    refine said_table eventsListed fun entry member => ?_
    have stored := Std.ExtTreeMap.mem_toList_iff_getElem?_eq_some.1 (eventsListed.mem_iff.1 member)
    exact EventBody.said (by decide) (readable _ _ stored)
  constructor
  · intro around
    exact .record ⟨rfl, by decide, by decide⟩ (EachFits.cons (dialogueTable.fits around) <|
      .cons (choiceTable.fits around) <| .cons (eventTable.fits around) .nil)
  · show (do
      let dialogues ← ofDatum? (Notation.listing dialogues)
      let choices ← ofDatum? (Notation.listing choices)
      let events ← ofDatum? (Notation.listing events)
      return (⟨dialogues, choices, events⟩ : Package)) = some package
    rw [dialogueTable.returns, choiceTable.returns, eventTable.returns]
    rfl

/-! ## Saves -/

/-- Variables as a datum in which they are listed in some order. -/
def Variables.listed (entries : List (String × Value)) : Datum :=
  .record [("vars", listing entries)]

theorem Variables.said {state : Variables} {entries : List (String × Value)}
    (listed : entries.Perm state.table.toList)
    (holds : ∀ key value, state.get? key = some value → value.Holds plain) :
    Says plain 6 state (Variables.listed entries) := by
  have table : Says plain 4 state.table (listing entries) := by
    refine said_table listed fun entry member => Value.said (holds entry.1 entry.2 ?_)
    exact Std.ExtTreeMap.mem_toList_iff_getElem?_eq_some.1 (listed.mem_iff.1 member)
  constructor
  · intro around
    exact .record ⟨rfl, by decide, by decide⟩ (EachFits.cons (table.fits around) .nil)
  · show (ofDatum? (listing entries)).map Variables.mk = some state
    rw [table.returns]
    rfl

theorem ShuffleState.said (shuffle : ShuffleState) : Says plain 2 shuffle (toDatum shuffle) := by
  have word (value : UInt64) : Says plain 0 value (toDatum value) := said_word value
  constructor
  · intro around
    exact .record ⟨rfl, by decide, by decide⟩
      (EachFits.cons ((word _).fits around) <| .cons ((word _).fits around) .nil)
  · show (do
      return (⟨← ofDatum? (toDatum shuffle.seed), ← ofDatum? (toDatum shuffle.draws)⟩ :
        ShuffleState)) = some shuffle
    rw [(word _).returns, (word _).returns]
    rfl

/-- The line of a snapshot is an index of 64 bits. -/
def Snapshot.Addressable (snapshot : Snapshot) : Prop :=
  ∀ index ∈ snapshot.line, index < UInt64.size

theorem Snapshot.said {snapshot : Snapshot} (addressable : snapshot.Addressable) :
    Says plain 5 snapshot (toDatum snapshot) := by
  have node : Says plain 3 snapshot.node (toDatum snapshot.node) := said_optionalText _
  have line : Says plain 3 snapshot.line (toDatum snapshot.line) :=
    said_option rfl fun index present => said_index (addressable index present)
  have shuffle : Says plain 3 snapshot.shuffle (toDatum snapshot.shuffle) :=
    said_option rfl fun held _ => held.said
  constructor
  · intro around
    exact .record ⟨rfl, by decide, by decide⟩ (EachFits.cons (node.fits around) <|
      .cons (line.fits around) <| .cons (shuffle.fits around) .nil)
  · show (do
      let node ← ofDatum? (toDatum snapshot.node)
      let line ← ofDatum? (toDatum snapshot.line)
      let shuffle ← ofDatum? (toDatum snapshot.shuffle)
      return (⟨node, line, shuffle⟩ : Snapshot)) = some snapshot
    rw [node.returns, line.returns, shuffle.returns]
    rfl

/-! ## Everything that is written -/

/-- The texts of a package, whose tables may be listed in any order. -/
def Package.WrittenAs (package : Package) (text : String) : Prop :=
  ∃ dialogues choices events,
    dialogues.Perm package.dialogues.toList ∧ choices.Perm package.choices.toList ∧
    events.Perm package.events.toList ∧
    text = String.ofList (print (listed dialogues choices events))

theorem Package.writtenAs_write (package : Package) : package.WrittenAs (write package) :=
  ⟨_, _, _, .refl _, .refl _, .refl _, rfl⟩

/-- The texts of variables, which may be listed in any order. -/
def Variables.WrittenAs (state : Variables) (text : String) : Prop :=
  ∃ entries, entries.Perm state.table.toList ∧ text = String.ofList (print (listed entries))

theorem Variables.writtenAs_write (state : Variables) : state.WrittenAs (write state) :=
  ⟨_, .refl _, rfl⟩

/-- The texts of a save, whose variables may be listed in any order. -/
def Snapshot.WrittenWith (snapshot : Snapshot) (state : Variables) (text : String) : Prop :=
  ∃ entries, entries.Perm state.table.toList ∧
    text = String.ofList (print (.pair (toDatum snapshot) (Variables.listed entries)))

theorem Snapshot.writtenWith_write (snapshot : Snapshot) (state : Variables) :
    snapshot.WrittenWith state (write (snapshot, state)) :=
  ⟨_, .refl _, rfl⟩

/-- Whatever is written in record notation is read back as what it was: lines, dialogues,
options and choices, rules that are not nested too deep, the contents of packages whose
tags can be told apart, variables and saves, in whatever order tables are listed. -/
theorem Notation.readAs_write :
    (∀ line : DialogueLine, readAs DialogueLine (write line) = .ok line) ∧
    (∀ dialogue : Dialogue, readAs Dialogue (write dialogue) = .ok dialogue) ∧
    (∀ line : ChoiceLine, readAs ChoiceLine (write line) = .ok line) ∧
    (∀ choice : Choice, readAs Choice (write choice) = .ok choice) ∧
    (∀ rule : ConditionRule,
      readAs ConditionRule (write rule) = .ok rule ↔ rule.depth ≤ greatestDepth) ∧
    (∀ rule : EffectRule, readAs EffectRule (write rule) = .ok rule) ∧
    (∀ body : DialogueBody, readAs DialogueBody (write body) = .ok body) ∧
    (∀ body : ChoiceBody, readAs ChoiceBody (write body) = .ok body) ∧
    (∀ body : EventBody, body.Readable 4 → readAs EventBody (write body) = .ok body) ∧
    (∀ package : Package, (∀ (id : String) (body : EventBody),
      package.events[id]? = some body → body.Readable 8) →
        package.WrittenAs (write package) ∧
        ∀ text, package.WrittenAs text → readAs Package text = .ok package) ∧
    (∀ state : Variables, state.WrittenAs (write state) ∧
      ∀ text, state.WrittenAs text → readAs Variables text = .ok state) ∧
    (∀ snapshot : Snapshot, snapshot.Addressable →
      readAs Snapshot (write snapshot) = .ok snapshot) ∧
    (∀ (snapshot : Snapshot) (state : Variables), snapshot.Addressable →
      snapshot.WrittenWith state (write (snapshot, state)) ∧
      ∀ text, snapshot.WrittenWith state text →
        readAs (Snapshot × Variables) text = .ok (snapshot, state)) := by
  have anyHolds : ∀ (state : Variables) (key : String) (value : Value),
      state.get? key = some value → value.Holds anyNumber :=
    fun _ _ _ _ _ _ => trivial
  have shallow {α : Type} [Notated α] {value : α} {datum : Datum} {levels : Nat}
      (said : Says anyNumber levels value datum) (enough : levels ≤ greatestDepth) :
      readAs α (String.ofList (print datum)) = .ok value :=
    readAs_print (said.mono enough)
  refine ⟨?_, ?_, ?_, ?_, ?_, ?_, ?_, ?_, ?_, ?_, ?_, ?_, ?_⟩
  · exact fun line => shallow line.said (by decide)
  · exact fun dialogue => shallow dialogue.said (by decide)
  · exact fun line => shallow line.said (by decide)
  · exact fun choice => shallow choice.said (by decide)
  · exact ConditionRule.readAs_write_iff
  · exact fun rule => shallow rule.said (by decide)
  · exact fun body => shallow body.said (by decide)
  · exact fun body => shallow body.said (by decide)
  · exact fun body readable => shallow (EventBody.said (by decide) readable) (by decide)
  · rintro package readable
    refine ⟨package.writtenAs_write, ?_⟩
    rintro _ ⟨dialogues, choices, events, first, second, third, rfl⟩
    exact readAs_print (Package.said first second third readable)
  · intro state
    refine ⟨state.writtenAs_write, ?_⟩
    rintro _ ⟨entries, listed, rfl⟩
    exact shallow (Variables.said listed (anyHolds state)) (by decide)
  · exact fun snapshot addressable => shallow (Snapshot.said addressable) (by decide)
  · intro snapshot state addressable
    refine ⟨snapshot.writtenWith_write state, ?_⟩
    rintro _ ⟨entries, listed, rfl⟩
    exact shallow (said_pair ((Snapshot.said addressable).mono (by decide : 5 ≤ 6))
      (Variables.said listed (anyHolds state))) (by decide)

namespace Sample

/-- A condition with text that has to be escaped. -/
def knot : ConditionRule := .not (.equals "a \"knot\"\n" (.float (.infinite true)))

/-- An event with a mode that is kept as it is. -/
def tie : EventBody := ⟨.and, .unrecognized "slowly", [knot], [.add "ties" Int64.minValue]⟩

/-- A package that has just one event. -/
def ties : Package := ⟨∅, ∅, Table.ofEntries [("tie", tie)]⟩

/-- Variables with the numbers that are written in a way of their own. -/
def odd : Variables :=
  ((Variables.empty.set "none" (.float (.zero true))).set "more" (.float (.infinite false)))

/-- A place in the middle of a dialogue. -/
def pause : Snapshot := ⟨some "dock", some 1, some ⟨5, 0⟩⟩

end Sample

/-- A nested condition, an event and a package with it, variables with an infinity and a
negative zero, and a save with them are read back. -/
theorem Notation.readAs_write_ties :
    readAs ConditionRule (write Sample.knot) = .ok Sample.knot ∧
    (Sample.tie.Readable 4 ∧ readAs EventBody (write Sample.tie) = .ok Sample.tie) ∧
    ((∀ (id : String) (body : EventBody), Sample.ties.events[id]? = some body →
      body.Readable 8) ∧ readAs Package (write Sample.ties) = .ok Sample.ties) ∧
    readAs Variables (write Sample.odd) = .ok Sample.odd ∧
    (Sample.pause.Addressable ∧ readAs Snapshot (write Sample.pause) = .ok Sample.pause ∧
      readAs (Snapshot × Variables) (write (Sample.pause, Sample.odd)) =
        .ok (Sample.pause, Sample.odd)) := by
  obtain ⟨-, -, -, -, conditions, -, -, -, events, packages, states, snapshots, saves⟩ :=
    readAs_write
  have readable (outer : Nat) (room : Sample.knot.depth + outer ≤ greatestDepth) :
      Sample.tie.Readable outer := by
    constructor
    · intro tag other
      contradiction
    · intro tag same
      cases same
      decide
    · intro rule member
      rw [List.mem_singleton.1 member]
      exact room
  have stored (id : String) (body : EventBody) (found : Sample.ties.events[id]? = some body) :
      body.Readable 8 := by
    have entry : (id, body) ∈ Sample.ties.events.toList :=
      Std.ExtTreeMap.mem_toList_iff_getElem?_eq_some.2 found
    have listed : Sample.ties.events.toList = [("tie", Sample.tie)] := by rfl
    rw [listed, List.mem_singleton] at entry
    cases entry
    exact readable 8 (by decide)
  have addressable : Sample.pause.Addressable := by
    rintro index ⟨⟩
    decide
  obtain ⟨packageWritten, packageRead⟩ := packages Sample.ties stored
  obtain ⟨stateWritten, stateRead⟩ := states Sample.odd
  obtain ⟨saveWritten, saveRead⟩ := saves Sample.pause Sample.odd addressable
  exact ⟨(conditions _).2 (by decide), ⟨readable 4 (by decide), events _ (readable 4 (by decide))⟩,
    ⟨stored, packageRead _ packageWritten⟩, stateRead _ stateWritten,
    addressable, snapshots _ addressable, saveRead _ saveWritten⟩

end BranchingStory
