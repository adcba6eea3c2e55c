import BranchingStory.Proofs.Preview.Saves

/-!
# Previews that go on from a save

A preview that has loaded a save answers everything that a page can ask as the saved one
does from there on, if that one has made a move before or has the same seed.  The snapshot
of a preview that has not made any move carries no shuffle state: whoever loads its save
takes the random orders from a seed of its own.
-/

namespace BranchingStory

theorem Variables.mem_of_toList {state : Variables} {entries : List (String × Value)}
    (listed : state.toList = entries) {key : String} {value : Value}
    (held : state.get? key = some value) : (key, value) ∈ entries := by
  rw [← listed]
  exact Std.ExtTreeMap.mem_toList_iff_getElem?_eq_some.2 held

theorem Session.snapshot_shuffle (session : Session Variables) :
    session.snapshot.shuffle = some session.shuffle := by
  unfold Session.snapshot
  split <;> rfl

namespace Preview

variable {preview other first second : Preview} {session : Session Variables}

/-! ## What a page asks -/

/-- What a page asks a preview between two saves. -/
inductive Request where
  | call (call : Call)
  | stateJson

/-- The answer to a request as the page reads it. -/
def respond (preview : Preview) : Request → Reply × Preview
  | .call call => preview.reply call
  | .stateJson => (some (.ok preview.stateJson.render), preview)

/-- The answers to some requests. -/
def responses (preview : Preview) : List Request → List Reply
  | [] => []
  | request :: requests =>
      let (reply, next) := preview.respond request
      reply :: next.responses requests

/-- One request: previews that stand for the same session answer it alike, and go on
standing for the same one. -/
theorem Mirrors.respond_eq (mirrors : preview.Mirrors session) (also : other.Mirrors session)
    (request : Request) :
    (preview.respond request).1 = (other.respond request).1 ∧
    ∃ next, (preview.respond request).2.Mirrors next ∧ (other.respond request).2.Mirrors next := by
  cases request with
  | call call =>
      obtain ⟨answered, next⟩ := mirrors.reply call
      obtain ⟨answeredAlso, nextAlso⟩ := also.reply call
      exact ⟨answered.trans answeredAlso.symm, _, next, nextAlso⟩
  | stateJson =>
      have sameState : preview.state = other.state := mirrors.state.trans also.state.symm
      refine ⟨?_, session, mirrors, also⟩
      simp only [respond, stateJson, sameState]

/-- Any number of requests. -/
theorem Mirrors.responses_eq (mirrors : preview.Mirrors session) (also : other.Mirrors session)
    (requests : List Request) : preview.responses requests = other.responses requests := by
  induction requests generalizing preview other session with
  | nil => rfl
  | cons request requests ih =>
      obtain ⟨answered, _, next, nextAlso⟩ := mirrors.respond_eq also request
      simp only [responses, answered, ih next nextAlso]

/-! ## Seeds -/

/-- A preview that stands for a session stands, with another seed, for the one that takes
its random orders from the snapshot, or else from that seed. -/
theorem Mirrors.reseeded (mirrors : preview.Mirrors session) (seed : UInt64) :
    ({ preview with seed } : Preview).Mirrors
      { session with shuffle := preview.snapshot.shuffle.getD (.start seed) } := by
  refine ⟨mirrors.coherent.of_frame rfl rfl, mirrors.store, mirrors.state, ?_, ?_, rfl⟩
  · rw [Session.snapshot_reshuffled]
    exact mirrors.stands.node
  · rw [Session.snapshot_reshuffled]
    exact mirrors.stands.line

theorem reply_seed (preview : Preview) (call : Call) :
    (preview.reply call).2.seed = preview.seed := by
  cases call <;> rfl

theorem load_seed (preview : Preview) (text : String) :
    (preview.load text).2.seed = preview.seed := by
  unfold load
  split <;> rfl

/-- The seed of a preview never changes, whatever it loads. -/
theorem LeadsTo.seed_eq {reached : Preview} (led : first.LeadsTo reached) :
    reached.seed = first.seed := by
  induction led with
  | here => rfl
  | call _ call same => exact (reply_seed _ call).trans same
  | load _ text same => exact (load_seed _ text).trans same

theorem LeadsTo.after {reached : Preview} (led : first.LeadsTo reached) (calls : List Call) :
    first.LeadsTo (reached.after calls) := by
  induction calls generalizing reached with
  | nil => exact led
  | cons call calls ih => exact ih (led.call call)

theorem ofPackageText_seed {text : String} {seed : UInt64}
    (accepted : ofPackageText text seed = .ok first) : first.seed = seed := by
  rw [(ofPackageText_ok accepted).2]

/-! ## Moves -/

/-- A call that builds a session, as opposed to one that only sets a variable. -/
def Call.isMove : Call → Bool
  | .setVariable _ _ => false
  | _ => true

/-- The snapshot carries how far the random orders have been used. -/
def Carries (preview : Preview) : Prop :=
  ∃ shuffle, preview.snapshot.shuffle = some shuffle

theorem carries_perform {α : Type} (preview : Preview)
    (move : Session Variables → Except StoryError α × Session Variables) :
    (preview.perform move).2.Carries :=
  ⟨_, Session.snapshot_shuffle _⟩

/-- A move leaves a snapshot with a shuffle state, also when it is refused. -/
theorem carries_of_isMove {call : Call} (isMove : call.isMove = true) :
    (preview.reply call).2.Carries := by
  cases call with
  | enter id => exact preview.carries_perform fun session => session.enter id
  | advance => exact preview.carries_perform Session.advance
  | choose index => exact preview.carries_perform fun session => session.choose index
  | setVariable key input => contradiction

/-- Once the snapshot has a shuffle state it goes on having one. -/
theorem Carries.reply (carries : preview.Carries) (call : Call) :
    (preview.reply call).2.Carries := by
  cases call with
  | setVariable key input => exact carries
  | enter id => exact carries_of_isMove rfl
  | advance => exact carries_of_isMove rfl
  | choose index => exact carries_of_isMove rfl

theorem Carries.after (carries : preview.Carries) (calls : List Call) :
    (preview.after calls).Carries := by
  induction calls generalizing preview with
  | nil => exact carries
  | cons call calls ih => exact ih (carries.reply call)

theorem carries_after {calls : List Call} (moved : ∃ call ∈ calls, call.isMove = true) :
    (preview.after calls).Carries := by
  obtain ⟨move, member, isMove⟩ := moved
  induction calls generalizing preview with
  | nil => cases member
  | cons call calls ih =>
      cases member with
      | head => exact (carries_of_isMove isMove).after calls
      | tail _ later => exact ih later

/-! ## Going on from a save -/

/-- A preview with finite numbers is saved, and any preview of the same story, whatever that
one has been led to, loads the save.  Every sequence of requests is then answered as the
saved preview would answer it with the seed of the other one in place of its own; that is as
it would answer itself, if it has made a move, also a refused one, or if the two seeds are
the same.  That finite numbers survive their text is assumed of those that are held. -/
theorem replay_load {text : String} {seed otherSeed : UInt64}
    (accepted : ofPackageText text seed = .ok first) (calls : List Call)
    (also : ofPackageText text otherSeed = .ok second) (led : second.LeadsTo other)
    (addressable : (first.after calls).snapshot.Addressable)
    (finite : (first.after calls).state.Finite)
    (survive : ∀ key number, (first.after calls).state.get? key = some (.float number) →
      number.isFinite = true → Json.FloatForm.literal.Keeps number) :
    let saved := first.after calls
    let loaded := other.load saved.save
    (∃ answer, loaded.1 = .ok answer) ∧
    (∀ requests, loaded.2.responses requests =
      ({ saved with seed := otherSeed } : Preview).responses requests) ∧
    ((∃ call ∈ calls, call.isMove = true) ∨ otherSeed = seed →
      ∀ requests, loaded.2.responses requests = saved.responses requests) := by
  intro saved loaded
  obtain ⟨session, mirrors⟩ : ∃ session, saved.Mirrors session :=
    (ofPackageText_mirrors accepted).after calls
  have sameStore : other.store = saved.store :=
    (led.store_eq.trans (ofPackageText_store accepted also)).trans (after_store first calls).symm
  have ownSeed : saved.seed = seed :=
    (LeadsTo.here.after calls).seed_eq.trans (ofPackageText_seed accepted)
  have otherOwnSeed : other.seed = otherSeed := led.seed_eq.trans (ofPackageText_seed also)
  have read : Save.ofText? saved.save = some ⟨saved.snapshot, saved.state⟩ := by
    apply Save.ofText?_text addressable
    rintro key _ held number rfl
    exact survive key number held (finite key number held)
  obtain ⟨shown, _, answered, next⟩ := mirrors.load_read sameStore read
  rw [otherOwnSeed] at next
  refine ⟨⟨_, answered⟩, next.responses_eq (mirrors.reseeded otherSeed), ?_⟩
  intro same
  -- The orders of the saved preview come from its snapshot, or else from the common seed.
  have sameOrders : saved.snapshot.shuffle.getD (.start otherSeed) = session.shuffle := by
    rw [← mirrors.stands.shuffle]
    cases same with
    | inl moved =>
        obtain ⟨shuffle, carried⟩ : saved.Carries := carries_after moved
        rw [carried, Option.getD_some, Option.getD_some]
    | inr sameSeed => rw [sameSeed, ownSeed]
  rw [sameOrders] at next
  exact next.responses_eq mirrors

/-- An event that toggles two variables in random order. -/
def bellsText : String :=
  "(events:\x7b\"bells\":(logic:\"AND\",mode:\"Concurrent\"," ++
    "results:[Toggle(key:\"a\"),Toggle(key:\"b\")])\x7d)"

/-- Calls that set a number with a fraction and ring the bells. -/
def bellsCalls : List Call := [.setVariable "tide" "2.5", .enter "bells"]

/-- A preview in which the bells have rung once is saved, and one with another seed, which
has refused a text, goes on from there. -/
theorem replay_load_bells :
    ∃ first second, ofPackageText bellsText 3 = .ok first ∧
      ofPackageText bellsText 2 = .ok second ∧
      let saved := first.after bellsCalls
      let loaded := ((second.load "no save").2.load saved.save).2
      saved.state.Finite ∧ ∀ requests, loaded.responses requests = saved.responses requests := by
  obtain ⟨first, accepted, seen⟩ := exists_of_toOption
    (show (ofPackageText bellsText 3).toOption.map (fun first =>
      ((first.after bellsCalls).snapshot, (first.after bellsCalls).state.toList)) =
        some (⟨none, none, some ⟨3, 1⟩⟩,
          [("a", .bool true), ("b", .bool true), ("tide", .float (.ofDecimal false 25 (-1)))]) by
      decide +kernel)
  obtain ⟨snapshot, entries⟩ := Prod.mk.inj seen
  obtain ⟨second, also⟩ : ∃ second, ofPackageText bellsText 2 = .ok second := by
    rw [ofPackageText_reseeded bellsText 3 2, accepted]
    exact ⟨_, rfl⟩
  have onlyTide : ∀ key number, (first.after bellsCalls).state.get? key = some (.float number) →
      number = .ofDecimal false 25 (-1) := by
    intro key number found
    obtain ⟨-, same⟩ : key = "tide" ∧ number = .ofDecimal false 25 (-1) := by
      simpa using Variables.mem_of_toList entries found
    exact same
  have finite : (first.after bellsCalls).state.Finite := by
    intro key number found
    rw [onlyTide key number found]
    decide +kernel
  refine ⟨first, second, accepted, also, finite, ?_⟩
  refine (replay_load accepted _ also (.load .here "no save") ?_ finite ?_).2.2 (.inl ?_)
  · rw [snapshot]
    rintro index ⟨⟩
  · intro key number found _
    rw [onlyTide key number found, Json.FloatForm.Keeps]
    decide +kernel
  · exact ⟨.enter "bells", List.mem_cons_of_mem _ List.mem_cons_self, rfl⟩

/-- The texts of the requests that were answered. -/
def heard (responses : List Reply) : List (Option String) :=
  responses.map fun reply => reply.bind Except.toOption

/-- A new preview forgets its seed when it is saved: one with another seed that has loaded
the save applies the effects of the first event in another order. -/
theorem replay_load_new :
    ∃ first second, ofPackageText bellsText 3 = .ok first ∧
      ofPackageText bellsText 2 = .ok second ∧
      ¬∀ requests, (second.load first.save).2.responses requests = first.responses requests := by
  obtain ⟨first, accepted, differ⟩ := exists_of_toOption
    (show (ofPackageText bellsText 3).toOption.map (fun first =>
      let loaded := (({ first with seed := 2 } : Preview).load first.save).2
      decide (heard (loaded.responses [.call (.enter "bells")]) =
        heard (first.responses [.call (.enter "bells")]))) = some false by
      decide +kernel)
  refine ⟨first, { first with seed := 2 }, accepted, ?_, ?_⟩
  · rw [ofPackageText_reseeded bellsText 3 2, accepted]
    rfl
  · intro same
    exact of_decide_eq_false differ (congrArg heard (same _))

/-- Calls that set a number with more digits than are read back. -/
def preciseCalls : List Call := [.setVariable "x" "9.163453718085519"]

/-- A finite number need not survive its text: what is read may be a neighbour of what was
written, and then a preview answers otherwise after it has loaded its own save. -/
theorem replay_load_neighbour :
    ∃ preview, ofPackageText "()" 1 = .ok preview ∧
      let saved := preview.after preciseCalls
      saved.state.Finite ∧
      ¬∀ requests, (saved.load saved.save).2.responses requests = saved.responses requests := by
  obtain ⟨preview, accepted, seen⟩ := exists_of_toOption
    (show (ofPackageText "()" 1).toOption.map (fun preview =>
      let saved := preview.after preciseCalls
      (saved.state.toList, decide (heard ((saved.load saved.save).2.responses [.stateJson]) =
        heard (saved.responses [.stateJson])))) =
        some ([("x", .float (.ofDecimal false 9163453718085519 (-15)))], false) by
      decide +kernel)
  obtain ⟨entries, differ⟩ := Prod.mk.inj seen
  refine ⟨preview, accepted, ?_, ?_⟩
  · intro key number found
    obtain ⟨-, same⟩ : key = "x" ∧ number = .ofDecimal false 9163453718085519 (-15) := by
      simpa using Variables.mem_of_toList entries found
    rw [same]
    decide +kernel
  · intro same
    exact of_decide_eq_false differ (congrArg heard (same _))

end Preview

end BranchingStory
