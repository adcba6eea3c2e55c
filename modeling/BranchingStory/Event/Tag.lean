/-!
# Tags of events

Authors write the logic and the mode of an event as text. Only the exact spellings are
recognized; every other text is kept as it is, so that it can be reported.
-/

namespace BranchingStory

/-- How an event combines its conditions. -/
inductive Logic where
  | and
  | or
  | unrecognized (tag : String)
  deriving DecidableEq, Repr

namespace Logic

/-- The logic that an author wrote. -/
def ofTag (tag : String) : Logic :=
  if tag = "AND" then .and
  else if tag = "OR" then .or
  else .unrecognized tag

/-- The text for a logic. -/
def tag : Logic → String
  | .and => "AND"
  | .or => "OR"
  | .unrecognized tag => tag

@[simp] theorem tag_ofTag (tag : String) : (ofTag tag).tag = tag := by
  unfold ofTag
  split
  · simp_all [Logic.tag]
  · split <;> simp_all [Logic.tag]

end Logic

/-- In which order an event applies its effects. -/
inductive Mode where
  /-- In the order in which they are written. -/
  | sequential
  /-- In a random order. -/
  | concurrent
  | unrecognized (tag : String)
  deriving DecidableEq, Repr

namespace Mode

/-- The mode that an author wrote. -/
def ofTag (tag : String) : Mode :=
  if tag = "Sequential" then .sequential
  else if tag = "Concurrent" then .concurrent
  else .unrecognized tag

/-- The text for a mode. -/
def tag : Mode → String
  | .sequential => "Sequential"
  | .concurrent => "Concurrent"
  | .unrecognized tag => tag

@[simp] theorem tag_ofTag (tag : String) : (ofTag tag).tag = tag := by
  unfold ofTag
  split
  · simp_all [Mode.tag]
  · split <;> simp_all [Mode.tag]

end Mode

end BranchingStory
