import Mathlib.Data.List.Chain
import BranchingStory.Proofs.Markup.Passes

/-!
# The pieces of a text are its only normal decomposition

A text can be cut into pieces in many ways that stand for it.  One of them is normal: its
highlighted pieces hold no brackets, its plain pieces hold no pair, none of them is empty,
and no two of them are neighbours.  Every text has exactly one normal decomposition, and it
is what splitting the text finds.

That splitting is normal is an invariant of the scan.  That it is the only normal way follows
the pieces from left to right: behind a plain piece the scan holds the whole piece as pending
text, whatever brackets without a partner are left in it, and a highlighted piece closes with
the bracket with which it opened.
-/

namespace BranchingStory.Markup

/-! ## Normal decompositions -/

/-- An opening bracket stands before a closing one. -/
def HasPair (chars : List Char) : Prop :=
  ∃ before after, chars = before ++ after ∧ '[' ∈ before ∧ ']' ∈ after

namespace Segment

def IsPlain : Segment → Prop
  | .plain _ => True
  | .highlight _ => False

/-- A piece that can be told apart: plain text that is not empty and holds no pair, or
highlighted text without brackets. -/
def Proper : Segment → Prop
  | .plain text => text ≠ "" ∧ ¬HasPair text.toList
  | .highlight text => '[' ∉ text.toList ∧ ']' ∉ text.toList

end Segment

/-- Proper pieces, the plain ones apart from each other. -/
structure Normal (pieces : List Segment) : Prop where
  proper : ∀ piece ∈ pieces, piece.Proper
  apart : pieces.IsChain fun left right => ¬(left.IsPlain ∧ right.IsPlain)

/-! ## Pairs of brackets -/

section Pairs

variable {chars left right : List Char}

theorem hasPair_append :
    HasPair (left ++ right) ↔ HasPair left ∨ HasPair right ∨ '[' ∈ left ∧ ']' ∈ right := by
  constructor
  · rintro ⟨before, after, same, opening, closing⟩
    rcases List.append_eq_append_iff.1 same with ⟨middle, rfl, rfl⟩ | ⟨middle, rfl, rfl⟩
    · rcases List.mem_append.1 opening with first | second
      · exact .inr (.inr ⟨first, List.mem_append_right _ closing⟩)
      · exact .inr (.inl ⟨middle, after, rfl, second, closing⟩)
    · rcases List.mem_append.1 closing with first | second
      · exact .inl ⟨before, middle, rfl, opening, first⟩
      · exact .inr (.inr ⟨List.mem_append_left _ opening, second⟩)
  · rintro (⟨before, after, rfl, opening, closing⟩ | ⟨before, after, rfl, opening, closing⟩ |
      ⟨opening, closing⟩)
    · exact ⟨before, after ++ right, List.append_assoc .., opening,
        List.mem_append_left _ closing⟩
    · exact ⟨left ++ before, after, (List.append_assoc ..).symm,
        List.mem_append_right _ opening, closing⟩
    · exact ⟨left, right, rfl, opening, closing⟩

theorem HasPair.opening (pair : HasPair chars) : '[' ∈ chars := by
  obtain ⟨before, after, rfl, opening, _⟩ := pair
  exact List.mem_append_left _ opening

theorem HasPair.closing (pair : HasPair chars) : ']' ∈ chars := by
  obtain ⟨before, after, rfl, _, closing⟩ := pair
  exact List.mem_append_right _ closing

theorem hasPair_cons {c : Char} :
    HasPair (c :: chars) ↔ c = '[' ∧ ']' ∈ chars ∨ HasPair chars := by
  have alone : ¬HasPair [c] := by
    intro pair
    have opening := List.mem_singleton.1 pair.opening
    cases opening.trans (List.mem_singleton.1 pair.closing).symm
  have split : c :: chars = [c] ++ chars := rfl
  rw [split, hasPair_append, or_iff_right alone, List.mem_singleton, or_comm, eq_comm]

instance HasPair.decidable : ∀ chars, Decidable (HasPair chars)
  | [] => isFalse fun pair => List.not_mem_nil pair.opening
  | _ :: chars =>
      have : Decidable (HasPair chars) := HasPair.decidable chars
      decidable_of_iff _ hasPair_cons.symm

end Pairs

instance : DecidablePred Segment.IsPlain
  | .plain _ => isTrue trivial
  | .highlight _ => isFalse id

instance : DecidablePred Segment.Proper
  | .plain _ | .highlight _ => inferInstanceAs (Decidable (_ ∧ _))

instance (pieces : List Segment) : Decidable (Normal pieces) :=
  decidable_of_iff
    ((∀ piece ∈ pieces, piece.Proper) ∧
      pieces.IsChain fun left right => ¬(left.IsPlain ∧ right.IsPlain))
    ⟨fun both => ⟨both.1, both.2⟩, fun normal => ⟨normal.proper, normal.apart⟩⟩

/-! ## Splitting is normal -/

theorem Normal.append_plainPiece {pieces : List Segment} {text : String}
    (normal : Normal pieces) (apart : ∀ last ∈ pieces.getLast?, ¬last.IsPlain)
    (unpaired : ¬HasPair text.toList) : Normal (pieces ++ plainPiece text) := by
  unfold plainPiece
  split
  · rw [List.append_nil]
    exact normal
  · next nonempty =>
      constructor
      · intro piece member
        rcases List.mem_append.1 member with earlier | last
        · exact normal.proper piece earlier
        · cases List.mem_singleton.1 last
          exact ⟨nonempty, unpaired⟩
      · refine List.isChain_append.2 ⟨normal.apart, List.isChain_singleton _, ?_⟩
        intro last isLast _ _ both
        exact apart last isLast both.1

theorem Normal.append_highlight {pieces : List Segment} {text : String}
    (normal : Normal pieces) (free : (Segment.highlight text).Proper) :
    Normal (pieces ++ [.highlight text]) := by
  constructor
  · intro piece member
    rcases List.mem_append.1 member with earlier | last
    · exact normal.proper piece earlier
    · cases List.mem_singleton.1 last
      exact free
  · refine List.isChain_append.2 ⟨normal.apart, List.isChain_singleton _, ?_⟩
    rintro _ _ _ ⟨⟩ both
    exact both.2

namespace Scan

/-- What holds of a scan wherever it has got to: what is found is normal and ends with a
highlighted piece, and the text behind it holds no pair. -/
structure Orderly (scan : Scan) : Prop where
  found : Normal scan.found
  ends : ∀ last ∈ scan.found.getLast?, ¬last.IsPlain
  plain : ¬HasPair scan.plain.toList
  unopened : scan.inside = none → '[' ∉ scan.plain.toList
  inside : ∀ text, scan.inside = some text → (Segment.highlight text).Proper

variable {scan : Scan} {c : Char} {chars : List Char}

theorem orderly_start : Orderly start := by
  constructor
  · exact ⟨fun piece member => by contradiction, .nil⟩
  · exact fun last isLast => by contradiction
  · exact fun pair => by cases pair.opening
  · exact fun _ member => by cases member
  · exact fun text opened => by cases opened

theorem Orderly.pending (orderly : scan.Orderly) : ¬HasPair scan.pending.toList := by
  cases opened : scan.inside with
  | none =>
      simp only [Scan.pending, opened]
      exact orderly.plain
  | some inside =>
      -- A pair could only close behind the open bracket, and nothing closes there.
      have unclosed : ']' ∉ ("[" ++ inside).toList := by
        rw [String.toList_append, List.mem_append]
        rintro (first | second)
        · cases List.mem_singleton.1 first
        · exact (orderly.inside inside opened).2 second
      rw [pending_of_opened opened, String.toList_append, hasPair_append]
      rintro (pair | pair | ⟨_, closing⟩)
      · exact orderly.plain pair
      · exact unclosed pair.closing
      · exact unclosed closing

theorem Orderly.openPair (orderly : scan.Orderly) : scan.openPair.Orderly := by
  constructor
  · exact orderly.found
  · exact orderly.ends
  · exact orderly.pending
  · exact fun unopened => by contradiction
  · rintro _ ⟨⟩
    exact ⟨List.not_mem_nil, List.not_mem_nil⟩

theorem Orderly.close (orderly : scan.Orderly) {inside : String}
    (opened : scan.inside = some inside) :
    Orderly ⟨scan.found ++ plainPiece scan.plain ++ [.highlight inside], "", none⟩ := by
  constructor
  · exact (orderly.found.append_plainPiece orderly.ends orderly.plain).append_highlight
      (orderly.inside inside opened)
  · intro last isLast
    rw [List.getLast?_concat] at isLast
    cases isLast
    exact id
  · exact fun pair => by cases pair.opening
  · exact fun _ member => by cases member
  · exact fun text reopened => by cases reopened

theorem Orderly.add (orderly : scan.Orderly) (keeps : scan.Keeps c) :
    (scan.add (String.singleton c)).Orderly := by
  obtain ⟨isNotOpening, unpaired⟩ := keeps
  cases opened : scan.inside with
  | none =>
      have unopened : '[' ∉ (scan.plain ++ String.singleton c).toList := by
        rw [String.toList_append, String.toList_singleton, List.mem_append, List.mem_singleton]
        rintro (earlier | rfl)
        · exact orderly.unopened opened earlier
        · exact isNotOpening rfl
      simp only [Scan.add, opened]
      constructor
      · exact orderly.found
      · exact orderly.ends
      · exact fun pair => unopened pair.opening
      · exact fun _ => unopened
      · exact fun text reopened => by cases reopened
  | some inside =>
      have isNotClosing : c ≠ ']' := fun same => by cases (unpaired same).symm.trans opened
      simp only [Scan.add, opened]
      constructor
      · exact orderly.found
      · exact orderly.ends
      · exact orderly.plain
      · exact fun unopened => by contradiction
      · rintro _ ⟨⟩
        obtain ⟨noOpening, noClosing⟩ := orderly.inside inside opened
        simp only [Segment.Proper, String.toList_append, String.toList_singleton,
          List.mem_append, List.mem_singleton, not_or]
        exact ⟨⟨noOpening, isNotOpening.symm⟩, noClosing, isNotClosing.symm⟩

theorem Orderly.feed (orderly : scan.Orderly) (c : Char) : (scan.feed c).Orderly := by
  rcases cases_of_char scan c with rfl | ⟨rfl, inside, opened⟩ | keeps
  · exact orderly.openPair
  · rw [feed_closing opened]
    exact orderly.close opened
  · rw [feed_of_keeps keeps]
    exact orderly.add keeps

theorem Orderly.foldl (orderly : scan.Orderly) (chars : List Char) :
    (chars.foldl Scan.feed scan).Orderly := by
  induction chars generalizing scan with
  | nil => exact orderly
  | cons c chars ih => exact ih (orderly.feed c)

theorem Orderly.finish (orderly : scan.Orderly) : Normal scan.finish :=
  orderly.found.append_plainPiece orderly.ends orderly.pending

theorem source_finish (scan : Scan) : source scan.finish = scan.read := by
  simp only [Scan.finish, read, source_append, source_plainPiece]

/-! ## A normal decomposition is found again -/

/-- A character that closes no pair is added to the pending text. -/
theorem feed_unpaired (unpaired : c = ']' → scan.inside = none) :
    (scan.feed c).found = scan.found ∧
      (scan.feed c).pending = scan.pending ++ String.singleton c := by
  by_cases isOpening : c = '['
  · subst isOpening
    exact ⟨rfl, openPair_pending scan⟩
  · rw [feed_of_keeps ⟨isOpening, unpaired⟩]
    exact ⟨add_found scan _, add_pending scan _⟩

/-- Text without closing brackets is pending, whatever was opened before it. -/
theorem foldl_unclosed (unclosed : ']' ∉ chars) (scan : Scan) :
    (chars.foldl feed scan).found = scan.found ∧
      (chars.foldl feed scan).pending = scan.pending ++ String.ofList chars := by
  induction chars generalizing scan with
  | nil => exact ⟨rfl, String.append_empty.symm⟩
  | cons c chars ih =>
      obtain ⟨isNotClosing, others⟩ := List.ne_and_not_mem_of_not_mem_cons unclosed
      have unpaired : c = ']' → scan.inside = none :=
        fun same => absurd same.symm isNotClosing
      obtain ⟨found, pending⟩ := feed_unpaired unpaired
      obtain ⟨foundAfter, pendingAfter⟩ := ih others (scan.feed c)
      rw [List.foldl_cons, foundAfter, found, pendingAfter, pending, String.ofList_cons,
        String.append_assoc]
      exact ⟨rfl, rfl⟩

/-- Text without a pair is pending where no bracket is open before it. -/
theorem foldl_unpaired (unpaired : ¬HasPair chars) (unopened : scan.inside = none) :
    (chars.foldl feed scan).found = scan.found ∧
      (chars.foldl feed scan).pending = scan.pending ++ String.ofList chars := by
  induction chars generalizing scan with
  | nil => exact ⟨rfl, String.append_empty.symm⟩
  | cons c chars ih =>
      obtain ⟨apart, rest⟩ := not_or.1 (mt hasPair_cons.2 unpaired)
      by_cases isOpening : c = '['
      · -- From here on a bracket is open, but none is closed any more.
        subst isOpening
        have unclosed : ']' ∉ '[' :: chars := by
          intro closing
          rcases List.mem_cons.1 closing with same | later
          · cases same
          · exact apart ⟨rfl, later⟩
        exact foldl_unclosed unclosed scan
      · have keeps : scan.Keeps c := ⟨isOpening, fun _ => unopened⟩
        have stillUnopened : (scan.add (String.singleton c)).inside = none := by
          simp only [add, unopened]
        obtain ⟨found, pending⟩ := ih rest stillUnopened
        rw [List.foldl_cons, feed_of_keeps keeps, found, pending, add_found, add_pending,
          String.ofList_cons, String.append_assoc]
        exact ⟨rfl, rfl⟩

theorem foldl_inside (noOpening : '[' ∉ chars) (noClosing : ']' ∉ chars)
    (found : List Segment) (plain inside : String) :
    chars.foldl feed ⟨found, plain, some inside⟩ =
      ⟨found, plain, some (inside ++ String.ofList chars)⟩ := by
  induction chars generalizing inside with
  | nil => rw [List.foldl_nil, String.ofList_nil, String.append_empty]
  | cons c chars ih =>
      obtain ⟨isNotOpening, noLaterOpening⟩ := List.ne_and_not_mem_of_not_mem_cons noOpening
      obtain ⟨isNotClosing, noLaterClosing⟩ := List.ne_and_not_mem_of_not_mem_cons noClosing
      have keeps : Keeps ⟨found, plain, some inside⟩ c :=
        ⟨isNotOpening.symm, fun same => absurd same.symm isNotClosing⟩
      rw [List.foldl_cons, feed_of_keeps keeps, add, ih noLaterOpening noLaterClosing,
        String.ofList_cons, String.append_assoc]

/-- A highlighted piece is found as a whole, behind what was pending before it. -/
theorem foldl_highlight {text : String} (free : (Segment.highlight text).Proper)
    (scan : Scan) :
    (Segment.highlight text).source.toList.foldl feed scan =
      ⟨scan.found ++ plainPiece scan.pending ++ [.highlight text], "", none⟩ := by
  have opening : scan.feed '[' = ⟨scan.found, scan.pending, some ""⟩ := rfl
  have chars : (Segment.highlight text).source.toList = '[' :: (text.toList ++ [']']) := by
    rw [Segment.source, String.toList_append, String.toList_append]
    rfl
  rw [chars, List.foldl_cons, opening, List.foldl_append, foldl_inside free.1 free.2,
    String.ofList_toList, String.empty_append, List.foldl_cons, List.foldl_nil,
    feed_closing rfl]

/-- Nothing is pending where plain text comes next. -/
def ReadyFor (scan : Scan) (pieces : List Segment) : Prop :=
  ∀ first ∈ pieces.head?, first.IsPlain → scan.inside = none ∧ scan.plain = ""

theorem readyFor_fresh (found : List Segment) (pieces : List Segment) :
    ReadyFor ⟨found, "", none⟩ pieces :=
  fun _ _ _ => ⟨rfl, rfl⟩

/-- Behind a scan that is ready for them, normal pieces are found as they are. -/
theorem finish_foldl_source {pieces : List Segment} (normal : Normal pieces)
    (ready : scan.ReadyFor pieces) :
    ((source pieces).toList.foldl feed scan).finish =
      scan.found ++ plainPiece scan.pending ++ pieces := by
  -- On the pieces, for any scan: behind a plain piece its text is pending, and a highlighted
  -- piece, which is all that may come next, takes it along.
  induction pieces generalizing scan with
  | nil =>
      rw [List.append_nil]
      rfl
  | cons piece pieces ih =>
      obtain ⟨chained, others⟩ := List.isChain_cons.1 normal.apart
      have rest : Normal pieces :=
        ⟨fun other member => normal.proper other (List.mem_cons_of_mem _ member), others⟩
      have proper := normal.proper piece List.mem_cons_self
      rw [source_cons, String.toList_append, List.foldl_append]
      cases piece with
      | plain text =>
          obtain ⟨unopened, nothing⟩ := ready _ rfl trivial
          have fresh : scan.pending = "" := by
            rw [pending, unopened, nothing]
          obtain ⟨found, pending⟩ := foldl_unpaired proper.2 unopened
          rw [fresh, String.empty_append, String.ofList_toList] at pending
          have readyAfter : (text.toList.foldl feed scan).ReadyFor pieces :=
            fun next isNext plain => absurd ⟨trivial, plain⟩ (chained next isNext)
          have finished := ih rest readyAfter
          rw [found, pending] at finished
          rw [Segment.source, finished, fresh, plainPiece, if_neg proper.1, plainPiece, if_pos rfl,
            List.append_nil, List.append_assoc]
          rfl
      | highlight text =>
          rw [foldl_highlight proper, ih rest (readyFor_fresh _ _)]
          simp only [pending, plainPiece, if_true, List.append_nil, List.append_assoc]
          rfl

end Scan

theorem segments_eq (text : String) : segments text = (Scan.ofText text).finish := by
  rw [segments, segments?_eq, Option.getD_some]

/-- Splitting a text never stops; it gives a normal decomposition that stands for the text,
and every normal decomposition is what splitting the text for which it stands gives.  So a
text has exactly one of them. -/
theorem segments_iff_normal :
    (∀ text, segments? text = some (segments text) ∧ Normal (segments text) ∧
      source (segments text) = text) ∧
    (∀ pieces, Normal pieces → segments (source pieces) = pieces) ∧
    ∀ text pieces, segments text = pieces ↔ Normal pieces ∧ source pieces = text := by
  have splits : ∀ text, segments? text = some (segments text) ∧ Normal (segments text) ∧
      source (segments text) = text := by
    intro text
    rw [segments?_eq, segments_eq]
    exact ⟨rfl, (Scan.orderly_start.foldl text.toList).finish,
      (Scan.source_finish _).trans (Scan.read_ofText text)⟩
  have again : ∀ pieces, Normal pieces → segments (source pieces) = pieces := by
    intro pieces normal
    rw [segments_eq]
    exact Scan.finish_foldl_source normal (Scan.readyFor_fresh [] pieces)
  refine ⟨splits, again, ?_⟩
  intro text pieces
  constructor
  · rintro rfl
    exact (splits text).2
  · rintro ⟨normal, rfl⟩
    exact again pieces normal

/-- Brackets without a partner stand on either side of highlighted pieces. -/
theorem segments_iff_normal_stray :
    Normal [.highlight "a", .plain "]é[", .highlight "", .highlight "x"] ∧
    segments "[a]]é[[][x]" =
      [.highlight "a", .plain "]é[", .highlight "", .highlight "x"] := by
  have normal : Normal [.highlight "a", .plain "]é[", .highlight "", .highlight "x"] := by
    decide +kernel
  have stands : source [.highlight "a", .plain "]é[", .highlight "", .highlight "x"] =
      "[a]]é[[][x]" := by
    decide +kernel
  exact ⟨normal, (segments_iff_normal.2.2 _ _).2 ⟨normal, stands⟩⟩

end BranchingStory.Markup
