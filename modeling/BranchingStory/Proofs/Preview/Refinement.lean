import BranchingStory.Preview.Basic
import BranchingStory.Proofs.Session.Restore
import BranchingStory.Proofs.Store.Building

/-!
# A preview plays one long session

Between two calls a preview keeps a snapshot and the variables.  `Preview.Mirrors` says
that these two stand for a session; it holds of a new preview and of the session that has
not been entered, and every call, also a refused one, gives the same text on both sides
and keeps it.
-/

namespace BranchingStory

/-- What a page does with a preview. -/
inductive Preview.Call where
  | enter (id : String)
  | advance
  | choose (index : Nat)
  | setVariable (key input : String)

/-- What a page gets back: the text of the answer in JSON or the text of the error.
Setting a variable is not answered. -/
abbrev Preview.Reply := Option (Except String String)

namespace Preview

/-- The answer of a call as the page reads it. -/
def replyText (answer : Except PreviewError Json) : Except String String :=
  (answer.map Json.render).mapError PreviewError.message

def reply (preview : Preview) : Call → Reply × Preview
  | .enter id => (some (replyText (preview.enter id).1), (preview.enter id).2)
  | .advance => (some (replyText preview.advance.1), preview.advance.2)
  | .choose index => (some (replyText (preview.choose index).1), (preview.choose index).2)
  | .setVariable key input => (none, preview.setVariable key input)

/-- The replies to some calls, each with the variables after it. -/
def replies (preview : Preview) : List Call → List (Reply × Variables)
  | [] => []
  | call :: calls =>
      let (reply, next) := preview.reply call
      (reply, next.state) :: next.replies calls

end Preview

namespace Session

/-- The result of a call as a page would read it. -/
def replyText {α : Type} (shown : α → Json) (result : Except StoryError α) :
    Except String String :=
  (result.map fun value => (shown value).render).mapError StoryError.message

/-- The calls of a page made on a session itself. -/
def reply (session : Session Variables) : Preview.Call → Preview.Reply × Session Variables
  | .enter id => (some (replyText Step.json (session.enter id).1), (session.enter id).2)
  | .advance => (some (replyText Step.json session.advance.1), session.advance.2)
  | .choose index =>
      (some (replyText Outcome.json (session.choose index).1), (session.choose index).2)
  | .setVariable key input =>
      (none, session.setState (session.state.set key (Value.ofInput input)))

/-- The replies to some calls, each with the variables after it. -/
def replies (session : Session Variables) :
    List Preview.Call → List (Preview.Reply × Variables)
  | [] => []
  | call :: calls =>
      let (reply, next) := session.reply call
      (reply, next.state) :: next.replies calls

/-- Reading a result as a page does is the same before and after it went through a
preview. -/
theorem replyText_eq {α : Type} (shown : α → Json) (result : Except StoryError α) :
    Preview.replyText ((result.mapError .callRefused).map shown) =
      replyText shown result := by
  cases result <;> rfl

end Session

namespace Preview

variable {preview : Preview} {session : Session Variables}

/-- What a preview keeps stands for a session. -/
structure Mirrors (preview : Preview) (session : Session Variables) : Prop where
  coherent : session.Coherent
  store : preview.store = session.store
  state : preview.state = session.state
  stands : Session.StandsFor preview.snapshot (.start preview.seed) session

/-- A preview is made of the store that a strict build makes of the package. -/
theorem ofPackageText_ok_iff {text : String} {seed : UInt64} :
    ofPackageText text seed = .ok preview ↔
      ∃ package, Package.ofText text = .ok package ∧
        ∃ store, Store.ofPackage package .none true = .ok store ∧
          preview = ⟨store, .empty, .empty, seed⟩ := by
  unfold ofPackageText
  cases Package.ofText text with
  | error error =>
      constructor
      · rintro ⟨⟩
      · rintro ⟨_, ⟨⟩, _⟩
  | ok package =>
      have made : (do
          let store ← (Store.ofPackage package .none true).mapError PreviewError.packageRefused
          return ⟨store, .empty, .empty, seed⟩) = Except.ok preview ↔
            ∃ store, Store.ofPackage package .none true = .ok store ∧
              preview = ⟨store, .empty, .empty, seed⟩ := by
        cases Store.ofPackage package (.none : HostBindings Variables) true with
        | error error =>
            constructor
            · rintro ⟨⟩
            · rintro ⟨_, ⟨⟩, _⟩
        | ok store =>
            constructor
            · rintro ⟨⟩
              exact ⟨store, rfl, rfl⟩
            · rintro ⟨_, ⟨⟩, rfl⟩
              rfl
      refine Iff.trans made ?_
      constructor
      · exact fun built => ⟨package, rfl, built⟩
      · rintro ⟨_, ⟨⟩, built⟩
        exact built

/-- A preview that was made has the store of a package without errors and nothing else. -/
theorem ofPackageText_ok {text : String} {seed : UInt64}
    (accepted : ofPackageText text seed = .ok preview) :
    preview.store.Constructed ∧ preview = ⟨preview.store, .empty, .empty, seed⟩ := by
  obtain ⟨package, _, store, built, rfl⟩ := ofPackageText_ok_iff.1 accepted
  exact ⟨(Store.ofPackage_ok built).1, rfl⟩

/-- A new preview stands for a session that has not entered any node. -/
theorem ofPackageText_mirrors {text : String} {seed : UInt64}
    (accepted : ofPackageText text seed = .ok preview) :
    preview.Mirrors ((Session.start preview.store .empty).seed seed) := by
  obtain ⟨constructed, made⟩ := ofPackageText_ok accepted
  rw [made]
  exact ⟨Session.coherent_start constructed.keyed _ _, rfl, rfl, rfl, rfl, rfl⟩

/-- A move of the preview is the move of the session for which it stands. -/
theorem Mirrors.perform {α : Type} (mirrors : preview.Mirrors session)
    (move : Session Variables → Except StoryError α × Session Variables) :
    preview.perform move =
      ((move session).1.mapError .callRefused,
        { preview with state := (move session).2.state
                       snapshot := (move session).2.snapshot }) := by
  obtain ⟨shown, restored, _⟩ := mirrors.coherent.restore_of_standsFor
    ((Session.start preview.store preview.state).seed preview.seed)
    mirrors.store mirrors.state mirrors.stands
  simp only [Preview.perform, restored]

/-- A call that makes a move is answered as the session answers it, and the preview goes
on standing for the session. -/
theorem Mirrors.showing {α : Type} (mirrors : preview.Mirrors session)
    (move : Session Variables → Except StoryError α × Session Variables)
    (coherent : (move session).2.Coherent)
    (store : (move session).2.store = session.store) (shown : α → Json) :
    replyText (showing shown (preview.perform move)).1 =
      Session.replyText shown (move session).1 ∧
    (showing shown (preview.perform move)).2.Mirrors (move session).2 := by
  simp only [Preview.showing, mirrors.perform move]
  exact ⟨Session.replyText_eq shown _, coherent, mirrors.store.trans store.symm, rfl,
    Session.snapshot_standsFor _ _⟩

theorem Mirrors.setVariable (mirrors : preview.Mirrors session) (key input : String) :
    (preview.setVariable key input).Mirrors
      (session.setState (session.state.set key (Value.ofInput input))) := by
  refine ⟨mirrors.coherent.of_frame rfl rfl, mirrors.store, ?_, mirrors.stands.setState _⟩
  simp only [Preview.setVariable, Session.setState, mirrors.state]

/-- One call: the same reply, and the preview stands for the session after it. -/
theorem Mirrors.reply (mirrors : preview.Mirrors session) (call : Call) :
    (preview.reply call).1 = (session.reply call).1 ∧
    (preview.reply call).2.Mirrors (session.reply call).2 := by
  cases call with
  | enter id =>
      obtain ⟨answered, next⟩ := mirrors.showing (fun session => session.enter id)
        (mirrors.coherent.enter id) (session.perform_store (.enter id)) Step.json
      exact ⟨congrArg some answered, next⟩
  | advance =>
      obtain ⟨answered, next⟩ := mirrors.showing Session.advance
        mirrors.coherent.advance (session.perform_store .advance) Step.json
      exact ⟨congrArg some answered, next⟩
  | choose index =>
      obtain ⟨answered, next⟩ := mirrors.showing (fun session => session.choose index)
        (mirrors.coherent.choose index) (session.perform_store (.choose index)) Outcome.json
      exact ⟨congrArg some answered, next⟩
  | setVariable key input => exact ⟨rfl, mirrors.setVariable key input⟩

/-- Any number of calls: the same replies, with the same variables after each. -/
theorem Mirrors.replies (mirrors : preview.Mirrors session) (calls : List Call) :
    preview.replies calls = session.replies calls := by
  induction calls generalizing preview session with
  | nil => rfl
  | cons call calls ih =>
      obtain ⟨answered, next⟩ := mirrors.reply call
      simp only [Preview.replies, Session.replies, answered, next.state, ih next]

/-- A preview of a package text that it accepts answers every sequence of calls, failing
ones included, as one session over its store does that began with its seed and without
variables; the variables agree after every call. -/
theorem preview_refines_session {text : String} {seed : UInt64}
    (accepted : ofPackageText text seed = .ok preview) (calls : List Call) :
    preview.replies calls =
      ((Session.start preview.store .empty).seed seed).replies calls :=
  (ofPackageText_mirrors accepted).replies calls

/-- A choice with one option, which leads to an event. -/
def bellText : String :=
  "(choices:\x7b\"c\":(lines:[(text:\"\",next:\"e\")])\x7d," ++
    "events:\x7b\"e\":(logic:\"AND\")\x7d)"

/-- Calls of every kind, three of which are refused: outside a dialogue, for an id that
means nothing and for an option that is not there. -/
theorem preview_refines_session_bell :
    ∃ preview, ofPackageText bellText 7 = .ok preview ∧
      let calls : List Call := [.advance, .enter "c", .setVariable "rung" "4",
        .enter "nowhere", .enter "c", .choose 9, .choose 0, .enter "e"]
      preview.replies calls =
        ((Session.start preview.store .empty).seed 7).replies calls := by
  have readable : (ofPackageText bellText 7).toBool = true := by decide +kernel
  cases accepted : ofPackageText bellText 7 with
  | error error =>
      rw [accepted] at readable
      cases readable
  | ok preview => exact ⟨preview, rfl, preview_refines_session accepted _⟩

end Preview

end BranchingStory
