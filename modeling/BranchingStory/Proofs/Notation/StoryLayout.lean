import BranchingStory.Proofs.Notation.NodeLayout

/-!
# Stories laid out otherwise

The tables of a package may stand in any order and be left out when they are empty, each of
them may list its entries in any order, and every entry is laid out by itself.  So the layout
of a package file is immaterial as a whole, and so is that of a snapshot.
-/

namespace BranchingStory

open Notation

variable {levels : Nat} {written : Datum}

/-! ## Packages -/

namespace Package

/-- What may be left out of a package. -/
def defaults : List (String × Datum) :=
  [("dialogues", toDatum (∅ : Table DialogueBody)), ("choices", toDatum (∅ : Table ChoiceBody)),
    ("events", toDatum (∅ : Table EventBody))]

/-- The ways to lay out a package, with all that it holds. -/
inductive LaidOut (package : Package) : Datum → Prop where
  | tables {dialogues : List (String × DialogueBody)} {choices : List (String × ChoiceBody)}
      {events : List (String × EventBody)} {dialogueTable choiceTable eventTable : Datum}
      {shown : List (String × Datum)}
      (dialoguesLaid : Lays DialogueBody.LaidOut package.dialogues dialogues dialogueTable)
      (choicesLaid : Lays ChoiceBody.LaidOut package.choices choices choiceTable)
      (eventsLaid : Lays EventBody.LaidOut package.events events eventTable)
      (arranged : Arranged defaults
        [("dialogues", dialogueTable), ("choices", choiceTable), ("events", eventTable)] shown) :
      LaidOut package (.record shown)

theorem defaults_stand (around : Shape) :
    ∀ default ∈ defaults, Stands (levels + 2) around (Notated.shape Package).fields default := by
  have nothing {shape : Shape} : Reads (levels + 2) around (.table shape)
      ⟨.table [], .table [], true⟩ :=
    (Fits.table fun _ member => absurd member List.not_mem_nil :
      Fits anyNumber (levels + 2) around (.table shape) (.table [])).reads
  simp only [defaults, List.forall_mem_cons]
  exact ⟨⟨_, rfl, rfl, nothing⟩, ⟨_, rfl, rfl, nothing⟩, ⟨_, rfl, rfl, nothing⟩,
    fun _ member => absurd member List.not_mem_nil⟩

/-- A layout is read as the tables in the order in which it has them. -/
theorem exists_reads {package : Package} (laid : package.LaidOut written) :
    ∃ dialogues choices events, dialogues.Perm package.dialogues.toList ∧
      choices.Perm package.choices.toList ∧ events.Perm package.events.toList ∧
      Reads greatestDepth .enclosing (Notated.shape Package)
        ⟨written, listed dialogues choices events,
          events.all fun entry => entry.2.isShallow (greatestDepth - 8)⟩ := by
  cases laid with
  | @tables dialogues choices events dialogueTable choiceTable eventTable shown
      dialoguesLaid choicesLaid eventsLaid arranged =>
      refine ⟨dialogues, choices, events, dialoguesLaid.listed, choicesLaid.listed,
        eventsLaid.listed, ?_⟩
      have dialogueRead : Reads 126 .enclosing (Notated.shape (Table DialogueBody))
          ⟨dialogueTable, Notation.listing dialogues, dialogues.all fun _ => true⟩ :=
        dialoguesLaid.reads fun laid => DialogueBody.reads laid _
      have choiceRead : Reads 126 .enclosing (Notated.shape (Table ChoiceBody))
          ⟨choiceTable, Notation.listing choices, choices.all fun _ => true⟩ :=
        choicesLaid.reads fun laid => ChoiceBody.reads laid _
      have eventRead : Reads 126 .enclosing (Notated.shape (Table EventBody))
          ⟨eventTable, Notation.listing events, events.all fun entry => entry.2.isShallow 120⟩ :=
        eventsLaid.reads fun laid => EventBody.reads laid (by decide) _
      have each : EachReads 126 .enclosing (Notated.shape Package).fields
          [("dialogues",
              ⟨dialogueTable, Notation.listing dialogues, dialogues.all fun _ => true⟩),
            ("choices", ⟨choiceTable, Notation.listing choices, choices.all fun _ => true⟩),
            ("events", ⟨eventTable, Notation.listing events,
              events.all fun entry => entry.2.isShallow 120⟩)] :=
        .cons dialogueRead <| .cons choiceRead <| .cons eventRead .nil
      have record : Reads 128 .enclosing (Notated.shape Package) _ :=
        Reads.record (by decide) (by decide) each (defaults_stand _) arranged
      have always {α : Type} (items : List α) : (items.all fun _ => true) = true :=
        List.all_eq_true.2 fun _ _ => rfl
      simp only [List.all_cons, List.all_nil, always, Bool.true_and, Bool.and_true] at record
      exact record

variable {package : Package}

theorem readAs_of_readable (laid : package.LaidOut written)
    (readable : ∀ (id : String) (body : EventBody), package.events[id]? = some body →
      body.Readable 8) :
    readAs Package (String.ofList (print written)) = .ok package := by
  obtain ⟨dialogues, choices, events, dialoguesListed, choicesListed, eventsListed, reads⟩ :=
    exists_reads laid
  have shallow : (events.all fun entry => entry.2.isShallow (greatestDepth - 8)) = true := by
    refine List.all_eq_true.2 fun entry member => ?_
    have stored := Std.ExtTreeMap.mem_toList_iff_getElem?_eq_some.1 (eventsListed.mem_iff.1 member)
    exact EventBody.isShallow_of_readable (by decide) (readable _ _ stored)
  rw [shallow] at reads
  exact readAs_of_reads reads
    (Package.said dialoguesListed choicesListed eventsListed readable).returns

theorem readAs_of_deep (laid : package.LaidOut written) {id : String} {body : EventBody}
    (stored : package.events[id]? = some body) {rule : ConditionRule}
    (member : rule ∈ body.conditions) (deep : greatestDepth < rule.depth + 8) :
    readAs Package (String.ofList (print written)) = .error .tooDeep := by
  obtain ⟨dialogues, choices, events, _, _, eventsListed, reads⟩ := exists_reads laid
  have refused : (events.all fun entry => entry.2.isShallow (greatestDepth - 8)) = false := by
    have listed := eventsListed.mem_iff.2 (Std.ExtTreeMap.mem_toList_iff_getElem?_eq_some.2 stored)
    refine List.all_eq_false.2 ⟨(id, body), listed, ?_⟩
    rw [EventBody.isShallow_of_deep (by decide) member deep]
    exact Bool.false_ne_true
  rw [refused] at reads
  exact readAs_of_tooDeep reads

end Package

/-! ## Snapshots -/

namespace Snapshot

/-- What may be left out of a snapshot. -/
def defaults : List (String × Datum) :=
  [("node", toDatum (none : Option String)), ("line", toDatum (none : Option Nat)),
    ("shuffle", toDatum (none : Option ShuffleState))]

/-- The ways to lay out a snapshot. -/
def LaidOut (snapshot : Snapshot) (written : Datum) : Prop :=
  ∃ shown, Arranged defaults (toDatum snapshot).fields shown ∧ written = .record shown

theorem defaults_stand (around : Shape) :
    ∀ default ∈ defaults, Stands levels around (Notated.shape Snapshot).fields default := by
  simp only [defaults, List.forall_mem_cons]
  exact ⟨⟨_, rfl, rfl, reads_absent⟩, ⟨_, rfl, rfl, reads_absent⟩, ⟨_, rfl, rfl, reads_absent⟩,
    fun _ member => absurd member List.not_mem_nil⟩

theorem readAs_of_addressable {snapshot : Snapshot} (laid : snapshot.LaidOut written)
    (addressable : snapshot.Addressable) :
    readAs Snapshot (String.ofList (print written)) = .ok snapshot := by
  obtain ⟨shown, arranged, rfl⟩ := laid
  have said : Says anyNumber greatestDepth snapshot (toDatum snapshot) :=
    (Snapshot.said addressable).mono (by decide)
  have fits : Fits anyNumber greatestDepth .enclosing (Notated.shape Snapshot)
      (toDatum snapshot) :=
    said.fits _
  exact readAs_of_reads (fits.reads_arranged (defaults_stand _) arranged) said.returns

end Snapshot

/-! ## Everything that may be laid out otherwise -/

/-- The layout of a record does not matter.  In whatever order the fields stand, and whichever
of those that hold a default are left out, a text is read as the line, the option, the body,
the package or the snapshot that is laid out, and the same goes for every record inside.  It
has to be one that is read back at all: the tags of an event can be told apart and the line of
a snapshot is an index.  Where a condition is nested deeper than reading goes, no layout is
read. -/
theorem Notation.readAs_laidOut (written : Datum) :
    (∀ line : DialogueLine, line.LaidOut written →
      readAs DialogueLine (String.ofList (print written)) = .ok line) ∧
    (∀ line : ChoiceLine, line.LaidOut written →
      readAs ChoiceLine (String.ofList (print written)) = .ok line) ∧
    (∀ body : DialogueBody, body.LaidOut written →
      readAs DialogueBody (String.ofList (print written)) = .ok body) ∧
    (∀ body : EventBody, body.LaidOut written →
      (body.Readable 4 → readAs EventBody (String.ofList (print written)) = .ok body) ∧
      ∀ rule ∈ body.conditions, greatestDepth < rule.depth + 4 →
        readAs EventBody (String.ofList (print written)) = .error .tooDeep) ∧
    (∀ package : Package, package.LaidOut written →
      ((∀ (id : String) (body : EventBody), package.events[id]? = some body →
        body.Readable 8) →
          readAs Package (String.ofList (print written)) = .ok package) ∧
      ∀ (id : String) (body : EventBody), package.events[id]? = some body →
        ∀ rule ∈ body.conditions, greatestDepth < rule.depth + 8 →
          readAs Package (String.ofList (print written)) = .error .tooDeep) ∧
    (∀ snapshot : Snapshot, snapshot.LaidOut written → snapshot.Addressable →
      readAs Snapshot (String.ofList (print written)) = .ok snapshot) := by
  refine ⟨?_, ?_, ?_, ?_, ?_, ?_⟩
  · intro line laid
    have reads : Reads greatestDepth .enclosing (Notated.shape DialogueLine) _ :=
      DialogueLine.reads laid _
    exact readAs_of_reads reads (line.said : Says anyNumber 3 _ _).returns
  · intro line laid
    have reads : Reads greatestDepth .enclosing (Notated.shape ChoiceLine) _ :=
      ChoiceLine.reads laid _
    exact readAs_of_reads reads (line.said : Says anyNumber 2 _ _).returns
  · intro body laid
    have reads : Reads greatestDepth .enclosing (Notated.shape DialogueBody) _ :=
      DialogueBody.reads laid _
    exact readAs_of_reads reads (body.said : Says anyNumber 7 _ _).returns
  · intro body laid
    exact ⟨EventBody.readAs_of_readable laid, fun _ => EventBody.readAs_of_deep laid⟩
  · intro package laid
    exact ⟨Package.readAs_of_readable laid,
      fun _ _ stored _ => Package.readAs_of_deep laid stored⟩
  · intro snapshot laid
    exact Snapshot.readAs_of_addressable laid

namespace Sample

/-- A line of which only two fields hold no default. -/
def greeting : DialogueLine := ⟨none, "Mara", "Up.", "", none, none, none, ""⟩

/-- An option with a gate. -/
def wait : ChoiceLine := ⟨"Wait", "END", ⟨""⟩, -1, 3⟩

/-- A dialogue of one line. -/
def door : DialogueBody := ⟨none, [greeting]⟩

/-- An event with one condition and no effects. -/
def knock : EventBody := ⟨.or, .sequential, [.not (.flag "asleep")], []⟩

/-- A package without choices. -/
def visit : Package := ⟨Table.ofEntries [("door", door)], ∅, Table.ofEntries [("knock", knock)]⟩

theorem knock_readable (outer : Nat) (room : outer + 5 ≤ greatestDepth) :
    knock.Readable outer := by
  constructor
  · intro tag other
    contradiction
  · intro tag other
    contradiction
  · intro rule member
    rw [List.mem_singleton.1 member]
    exact (Nat.add_comm 5 outer).symm ▸ room

/-- The line with its fields in another order, without those that hold a default. -/
def greetingWritten : Datum := .record [("text", .text "Up."), ("speaker", .text "Mara")]

/-- The option with its fields in another order, without those that hold a default. -/
def waitWritten : Datum := .record
  [("min_responsibility", .integer 3), ("next", .text "END"), ("text", .text "Wait")]

/-- The dialogue without its entry, which is the default. -/
def doorWritten : Datum := .record [("lines", .list [greetingWritten])]

/-- The event with its fields in another order, without those that hold a default. -/
def knockWritten : Datum := .record
  [("conditions", .list [.holding "Not" (.having "Flag" [("key", .text "asleep")])]),
    ("logic", .text "OR")]

/-- The package with its tables in another order, without the one that is empty. -/
def visitWritten : Datum := .record
  [("events", .table [("knock", knockWritten)]), ("dialogues", .table [("door", doorWritten)])]

theorem greeting_laidOut : greeting.LaidOut greetingWritten := by
  have order : [2, 1, 0, 3, 4, 5, 6, 7].Perm (List.range 8) := by decide
  refine ⟨_, ⟨DialogueLine.defaults, ?_, fun _ member => member⟩, rfl⟩
  exact order.map fun index => (toDatum greeting).fields.getD index ("", .absent)

theorem wait_laidOut : wait.LaidOut waitWritten := by
  have order : [4, 1, 0, 2, 3].Perm (List.range 5) := by decide
  refine ⟨_, ⟨[("classification", .text ""), ("tutorial_skip", .integer (-1))], ?_, ?_⟩, rfl⟩
  · exact order.map fun index => (toDatum wait).fields.getD index ("", .absent)
  · exact fun _ member => List.mem_append_left [("min_responsibility", _)] member

theorem door_laidOut : door.LaidOut doorWritten := by
  refine ⟨[greetingWritten], _, .cons greeting_laidOut .nil, ?_, rfl⟩
  exact ⟨DialogueBody.defaults, .swap _ _ _, fun _ member => member⟩

theorem knock_laidOut : knock.LaidOut knockWritten := by
  have order : [2, 0, 1, 3].Perm (List.range 4) := by decide
  refine ⟨_, ⟨[("mode", .text "Sequential"), ("results", .list [])], ?_, ?_⟩, rfl⟩
  · exact order.map fun index => (toDatum knock).fields.getD index ("", .absent)
  · exact List.forall_mem_cons.2 ⟨List.mem_cons_self, List.forall_mem_cons.2
      ⟨.tail _ (.tail _ (.head _)), fun _ member => absurd member List.not_mem_nil⟩⟩

theorem visit_laidOut : visit.LaidOut visitWritten := by
  have order : [2, 0, 1].Perm (List.range 3) := by decide
  have dialoguesLaid : Lays DialogueBody.LaidOut visit.dialogues [("door", door)]
      (.table [("door", doorWritten)]) :=
    ⟨.refl _, _, rfl, .cons ⟨rfl, door_laidOut⟩ .nil⟩
  have eventsLaid : Lays EventBody.LaidOut visit.events [("knock", knock)]
      (.table [("knock", knockWritten)]) :=
    ⟨.refl _, _, rfl, .cons ⟨rfl, knock_laidOut⟩ .nil⟩
  refine .tables dialoguesLaid ⟨.refl _, _, rfl, .nil⟩ eventsLaid
    ⟨[("choices", .table [])], ?_, ?_⟩
  · exact order.map fun index =>
      [("dialogues", Datum.table [("door", doorWritten)]), ("choices", .table []),
        ("events", .table [("knock", knockWritten)])].getD index ("", .absent)
  · exact fun _ member => .tail _ (List.mem_append_left [("events", _)] member)

theorem visit_readable (id : String) (body : EventBody) (found : visit.events[id]? = some body) :
    body.Readable 8 := by
  have entry : (id, body) ∈ visit.events.toList :=
    Std.ExtTreeMap.mem_toList_iff_getElem?_eq_some.2 found
  have listed : visit.events.toList = [("knock", knock)] := by rfl
  rw [listed, List.mem_singleton] at entry
  cases entry
  exact knock_readable 8 (by decide)

theorem print_visitWritten : String.ofList (print visitWritten) =
    "(events:\x7b\"knock\":(conditions:[Not(Flag(key:\"asleep\"))]," ++
      "logic:\"OR\")\x7d,dialogues:\x7b\"door\":(lines:[(text:\"Up.\"," ++
      "speaker:\"Mara\")])\x7d)" := by
  decide +kernel

/-- A snapshot of which nothing is known. -/
theorem empty_laidOut : Snapshot.empty.LaidOut (.record []) :=
  ⟨[], ⟨Snapshot.defaults, .refl _, fun _ member => member⟩, rfl⟩

/-- A condition behind so many negations. -/
def negated (rule : ConditionRule) : Nat → ConditionRule
  | 0 => rule
  | times + 1 => .not (negated rule times)

theorem depth_negated (rule : ConditionRule) (times : Nat) :
    (negated rule times).depth = rule.depth + 2 * times := by
  induction times with
  | zero => rfl
  | succ times ih =>
      rw [negated, ConditionRule.depth, ih]
      omega

/-- An event whose condition is nested deeper than reading goes. -/
def denial : EventBody := ⟨.and, .sequential, [negated (.flag "asleep") 80], []⟩

end Sample

/-- Each of the six in the briefest layout, with its fields in another order. -/
theorem Notation.readAs_laidOut_visit :
    readAs DialogueLine "(text:\"Up.\",speaker:\"Mara\")" = .ok Sample.greeting ∧
    readAs ChoiceLine "(min_responsibility:3,next:\"END\",text:\"Wait\")" = .ok Sample.wait ∧
    readAs DialogueBody "(lines:[(text:\"Up.\",speaker:\"Mara\")])" = .ok Sample.door ∧
    (Sample.knock.Readable 4 ∧
      readAs EventBody "(conditions:[Not(Flag(key:\"asleep\"))],logic:\"OR\")" =
        .ok Sample.knock) ∧
    ((∀ (id : String) (body : EventBody), Sample.visit.events[id]? = some body →
        body.Readable 8) ∧
      readAs Package ("(events:\x7b\"knock\":(conditions:[Not(Flag(key:\"asleep\"))]," ++
        "logic:\"OR\")\x7d,dialogues:\x7b\"door\":(lines:[(text:\"Up.\"," ++
        "speaker:\"Mara\")])\x7d)") = .ok Sample.visit) ∧
    readAs Snapshot "()" = .ok ⟨none, none, none⟩ := by
  obtain ⟨lineRead, -⟩ := readAs_laidOut Sample.greetingWritten
  obtain ⟨-, choiceRead, -⟩ := readAs_laidOut Sample.waitWritten
  obtain ⟨-, -, bodyRead, -⟩ := readAs_laidOut Sample.doorWritten
  obtain ⟨-, -, -, eventRead, -⟩ := readAs_laidOut Sample.knockWritten
  obtain ⟨-, -, -, -, packageRead, -⟩ := readAs_laidOut Sample.visitWritten
  obtain ⟨-, -, -, -, -, snapshotRead⟩ := readAs_laidOut (.record [])
  have readable : Sample.knock.Readable 4 := Sample.knock_readable 4 (by decide)
  have packageBack := (packageRead _ Sample.visit_laidOut).1 Sample.visit_readable
  rw [Sample.print_visitWritten] at packageBack
  have addressable : Snapshot.empty.Addressable := by
    rintro index ⟨⟩
  exact ⟨lineRead _ Sample.greeting_laidOut, choiceRead _ Sample.wait_laidOut,
    bodyRead _ Sample.door_laidOut,
    ⟨readable, (eventRead _ Sample.knock_laidOut).1 readable⟩,
    ⟨Sample.visit_readable, packageBack⟩, snapshotRead _ Sample.empty_laidOut addressable⟩

/-- An event whose condition is nested too deep is not read from any text, not even from its
own in the order in which its fields are printed. -/
theorem Notation.readAs_laidOut_denial :
    Sample.denial.logic.Canonical ∧ Sample.denial.mode.Canonical ∧
    Sample.denial.LaidOut (toDatum Sample.denial) ∧
    readAs EventBody (String.ofList (print (toDatum Sample.denial))) = .error .tooDeep := by
  have laid : Sample.denial.LaidOut (toDatum Sample.denial) := ⟨_, Arranged.refl _ _, rfl⟩
  have deep : greatestDepth < (Sample.negated (.flag "asleep") 80).depth + 4 := by
    rw [Sample.depth_negated, ConditionRule.depth, greatestDepth]
    omega
  exact ⟨fun _ other => by contradiction, fun _ other => by contradiction, laid,
    EventBody.readAs_of_deep laid List.mem_cons_self deep⟩

end BranchingStory
