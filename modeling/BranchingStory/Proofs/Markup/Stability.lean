import BranchingStory.Proofs.Markup.Decomposition

/-!
# When formatting is stable

Formatting takes the brackets of every pair away, and tags without brackets bring none back.
So a text is formatted to itself exactly when it holds no pair.

What remains of a text with pairs are the brackets without a partner in its plain pieces.  In
the formatted text only tags and highlighted text stand between these pieces, and an opening
bracket of one of them finds a partner in a closing bracket of a later one.  Formatting once
more changes nothing exactly when there are no two such pieces.
-/

namespace BranchingStory.Markup

/-- Neither tag holds a character. -/
def Highlighter.Lacks (tags : Highlighter) (c : Char) : Prop :=
  c ∉ tags.opening.toList ∧ c ∉ tags.closing.toList

/-- A piece leaves a bracket without a partner in the formatted text. -/
def Segment.Leaves (bracket : Char) : Segment → Prop
  | .plain text => bracket ∈ text.toList
  | .highlight _ => False

/-- No piece leaves an opening bracket before one that leaves a closing bracket. -/
def Settled (pieces : List Segment) : Prop :=
  pieces.Pairwise fun left right => ¬(left.Leaves '[' ∧ right.Leaves ']')

instance (tags : Highlighter) (c : Char) : Decidable (tags.Lacks c) :=
  inferInstanceAs (Decidable (_ ∧ _))

instance (bracket : Char) : DecidablePred (Segment.Leaves bracket)
  | .plain text => inferInstanceAs (Decidable (bracket ∈ text.toList))
  | .highlight _ => isFalse id

instance (pieces : List Segment) : Decidable (Settled pieces) :=
  inferInstanceAs (Decidable (pieces.Pairwise _))

variable {tags : Highlighter} {piece : Segment} {pieces : List Segment} {text : String}
  {bracket : Char}

/-! ## Formatting renders the normal decomposition -/

theorem normal_segments (text : String) : Normal (segments text) := by
  rw [segments_eq]
  exact (Scan.orderly_start.foldl text.toList).finish

theorem source_segments (text : String) : source (segments text) = text := by
  rw [segments_eq, Scan.source_finish, Scan.read_ofText]

theorem format_eq_render (tags : Highlighter) (text : String) :
    tags.format text = tags.render (segments text) := by
  have rebuilt := run_eq tags text 0
  rw [Nat.add_zero] at rebuilt
  rw [Highlighter.format, Highlighter.format?, rebuilt, Option.getD_some, segments_eq]

theorem segments_of_unpaired (unpaired : ¬HasPair text.toList) :
    segments text = plainPiece text := by
  obtain ⟨found, pending⟩ := Scan.start.foldl_unpaired unpaired rfl
  rw [segments_eq, Scan.finish, Scan.ofText, found, pending, String.ofList_toList]
  exact congrArg plainPiece String.empty_append

/-! ## Brackets of the formatted text -/

theorem mem_renderSegment (isBracket : bracket = '[' ∨ bracket = ']')
    (lacks : tags.Lacks bracket) (proper : piece.Proper) :
    bracket ∈ (tags.renderSegment piece).toList ↔ piece.Leaves bracket := by
  cases piece with
  | plain text => rfl
  | highlight text =>
      have free : bracket ∉ text.toList := by
        rcases isBracket with rfl | rfl
        · exact proper.1
        · exact proper.2
      simp only [Highlighter.renderSegment, String.toList_append, List.mem_append, lacks.1, free,
        lacks.2, or_self, Segment.Leaves]

theorem render_cons (tags : Highlighter) (piece : Segment) (pieces : List Segment) :
    tags.render (piece :: pieces) = tags.renderSegment piece ++ tags.render pieces := by
  simp only [Highlighter.render, List.map_cons, String.join_cons]

theorem mem_render (isBracket : bracket = '[' ∨ bracket = ']') (lacks : tags.Lacks bracket)
    (proper : ∀ piece ∈ pieces, piece.Proper) :
    bracket ∈ (tags.render pieces).toList ↔ ∃ piece ∈ pieces, piece.Leaves bracket := by
  induction pieces with
  | nil => simp
  | cons piece pieces ih =>
      have first := mem_renderSegment isBracket lacks (proper piece List.mem_cons_self)
      have others := ih fun other member => proper other (List.mem_cons_of_mem _ member)
      rw [render_cons, String.toList_append, List.mem_append, first, others]
      simp only [List.mem_cons, exists_eq_or_imp]

theorem not_hasPair_renderSegment (noOpening : tags.Lacks '[') (proper : piece.Proper) :
    ¬HasPair (tags.renderSegment piece).toList := by
  intro pair
  have leaves := (mem_renderSegment (.inl rfl) noOpening proper).1 pair.opening
  cases piece with
  | plain text => exact proper.2 pair
  | highlight text => exact leaves

theorem settled_cons :
    Settled (piece :: pieces) ↔
      (∀ other ∈ pieces, ¬(piece.Leaves '[' ∧ other.Leaves ']')) ∧ Settled pieces := by
  unfold Settled
  exact List.pairwise_cons

/-- A pair in the formatted text is made of brackets that two pieces leave. -/
theorem not_hasPair_render_iff (noOpening : tags.Lacks '[') (noClosing : tags.Lacks ']')
    (proper : ∀ piece ∈ pieces, piece.Proper) :
    ¬HasPair (tags.render pieces).toList ↔ Settled pieces := by
  induction pieces with
  | nil =>
      constructor
      · exact fun _ => .nil
      · exact fun _ pair => List.not_mem_nil pair.opening
  | cons piece pieces ih =>
      have properFirst : piece.Proper := proper piece List.mem_cons_self
      have properOthers : ∀ other ∈ pieces, other.Proper :=
        fun other member => proper other (List.mem_cons_of_mem _ member)
      have apart : ¬('[' ∈ (tags.renderSegment piece).toList ∧
          ']' ∈ (tags.render pieces).toList) ↔
          ∀ other ∈ pieces, ¬(piece.Leaves '[' ∧ other.Leaves ']') := by
        rw [mem_renderSegment (.inl rfl) noOpening properFirst,
          mem_render (.inr rfl) noClosing properOthers]
        constructor
        · exact fun none other member both => none ⟨both.1, other, member, both.2⟩
        · rintro none ⟨opening, other, member, closing⟩
          exact none other member ⟨opening, closing⟩
      rw [render_cons, String.toList_append, hasPair_append,
        or_iff_right (not_hasPair_renderSegment noOpening properFirst), not_or,
        ih properOthers, apart, settled_cons, and_comm]

/-- Formatting takes an opening bracket away with every highlighted piece. -/
theorem count_render_add (noOpening : tags.Lacks '[')
    (proper : ∀ piece ∈ pieces, piece.Proper) :
    (tags.render pieces).toList.count '[' + pieces.countP (fun piece => ¬piece.IsPlain) =
      (source pieces).toList.count '[' := by
  induction pieces with
  | nil => rfl
  | cons piece pieces ih =>
      have others := ih fun other member => proper other (List.mem_cons_of_mem _ member)
      rw [render_cons, source_cons, String.toList_append, String.toList_append,
        List.count_append, List.count_append, List.countP_cons, ← others]
      cases piece with
      | plain text =>
          have isPlain : (Segment.plain text).IsPlain := trivial
          simp only [Highlighter.renderSegment, Segment.source, isPlain, not_true_eq_false,
            decide_false, Bool.false_eq_true, ↓reduceIte]
          omega
      | highlight text =>
          have isHighlight : ¬(Segment.highlight text).IsPlain := id
          have free : text.toList.count '[' = 0 :=
            List.count_eq_zero.2 (proper _ List.mem_cons_self).1
          have opening : tags.opening.toList.count '[' = 0 := List.count_eq_zero.2 noOpening.1
          have closing : tags.closing.toList.count '[' = 0 := List.count_eq_zero.2 noOpening.2
          have before : "[".toList.count '[' = 1 := by decide
          have behind : "]".toList.count '[' = 0 := by decide
          simp only [Highlighter.renderSegment, Segment.source, String.toList_append,
            List.count_append, free, opening, closing, before, behind, isHighlight,
            not_false_eq_true, decide_true, ↓reduceIte]
          omega

/-- A normal decomposition without highlighted pieces is one piece or none. -/
theorem Normal.not_hasPair_of_plain (normal : Normal pieces)
    (plain : ∀ piece ∈ pieces, piece.IsPlain) : ¬HasPair (source pieces).toList := by
  cases pieces with
  | nil => exact fun pair => List.not_mem_nil pair.opening
  | cons piece pieces =>
      cases pieces with
      | nil =>
          cases piece with
          | plain text =>
              rw [source_singleton]
              exact (normal.proper _ List.mem_cons_self).2
          | highlight text => exact (plain _ List.mem_cons_self).elim
      | cons next pieces =>
          have apart := (List.isChain_cons_cons.1 normal.apart).1
          exact absurd ⟨plain _ List.mem_cons_self,
            plain _ (List.mem_cons_of_mem _ List.mem_cons_self)⟩ apart

/-! ## Stable texts -/

theorem format_eq_self_iff (noOpening : tags.Lacks '[') (text : String) :
    tags.format text = text ↔ ¬HasPair text.toList := by
  constructor
  · intro same
    have normal := normal_segments text
    have counted := count_render_add noOpening normal.proper
    rw [← format_eq_render, same, source_segments] at counted
    have none : (segments text).countP (fun piece => ¬piece.IsPlain) = 0 := by omega
    have plain : ∀ piece ∈ segments text, piece.IsPlain := by
      simpa using List.countP_eq_zero.1 none
    have unpaired := normal.not_hasPair_of_plain plain
    rwa [source_segments] at unpaired
  · intro unpaired
    rw [format_eq_render, segments_of_unpaired unpaired, Highlighter.render_plainPiece]

/-- With tags that hold no brackets, a text is formatted to itself exactly when no closing
bracket follows an opening one in it, and to a text that is formatted to itself exactly when
no plain piece of it that holds an opening bracket comes before one that holds a closing
bracket. -/
theorem format_stable_iff (noOpening : tags.Lacks '[') (noClosing : tags.Lacks ']')
    (text : String) :
    (tags.format text = text ↔ ¬HasPair text.toList) ∧
    (tags.format (tags.format text) = tags.format text ↔ Settled (segments text)) := by
  constructor
  · exact format_eq_self_iff noOpening text
  · rw [format_eq_self_iff noOpening, format_eq_render,
      not_hasPair_render_iff noOpening noClosing (normal_segments text).proper]

/-- What is left of the outer brackets becomes a pair when they stand around a highlighted
piece, but not when they turn away from it. -/
theorem format_stable_iff_leftover :
    Highlighter.standard.Lacks '[' ∧ Highlighter.standard.Lacks ']' ∧
    Highlighter.standard.format (Highlighter.standard.format "[é [a] ]") ≠
      Highlighter.standard.format "[é [a] ]" ∧
    Highlighter.standard.format (Highlighter.standard.format "]é [a] [") =
      Highlighter.standard.format "]é [a] [" := by
  have noOpening : Highlighter.standard.Lacks '[' := by decide +kernel
  have noClosing : Highlighter.standard.Lacks ']' := by decide +kernel
  refine ⟨noOpening, noClosing, ?_, ?_⟩
  · have around : ¬Settled (segments "[é [a] ]") := by decide +kernel
    exact mt (format_stable_iff noOpening noClosing _).2.1 around
  · have away : Settled (segments "]é [a] [") := by decide +kernel
    exact (format_stable_iff noOpening noClosing _).2.2 away

end BranchingStory.Markup
