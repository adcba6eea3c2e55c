import BranchingStory.Dialogue.Basic

/-!
# Lines within reach

Which lines of a dialogue can be met is found with a queue of lines to look at. A line
taken from the queue that was met before adds nothing; every other one adds the line
that it leads to. As every line leads to at most one other, the queue runs empty after
at most one more step than there are lines.
-/

namespace BranchingStory.Validation

/-- The lines met so far and those to look at. -/
structure Sweep where
  reached : List Nat
  queue : List Nat
  deriving DecidableEq, Repr

namespace Sweep

/-- Only the line to begin with is known. -/
def start (entry : Nat) : Sweep := ⟨[], [entry]⟩

/-- The line that a line of a dialogue leads to. -/
def successor? (dialogue : Dialogue) (index : Nat) : Option Nat :=
  match dialogue.lines[index]? with
  | none => none
  | some line =>
      match dialogue.classify line.next with
      | .line next => some next
      | _ => none

/-- Takes one line from the queue. -/
def dequeue (dialogue : Dialogue) (sweep : Sweep) : Sweep :=
  match sweep.queue with
  | [] => sweep
  | index :: queue =>
      if index ∈ sweep.reached then { sweep with queue }
      else ⟨index :: sweep.reached, queue ++ (successor? dialogue index).toList⟩

/-- Takes lines from the queue, at most a number of times. -/
def run (dialogue : Dialogue) : Nat → Sweep → Sweep
  | 0, sweep => sweep
  | count + 1, sweep =>
      if sweep.queue.isEmpty then sweep else run dialogue count (sweep.dequeue dialogue)

end Sweep

/-- The lines that can be met from a line. -/
def reachedFrom (dialogue : Dialogue) (entry : Nat) : List Nat :=
  ((Sweep.start entry).run dialogue (dialogue.lines.length + 1)).reached

/-- The lines that cannot be met from a line, in order. -/
def unreachedFrom (dialogue : Dialogue) (entry : Nat) : List Nat :=
  let reached := reachedFrom dialogue entry
  (List.range dialogue.lines.length).filter fun index => index ∉ reached

end BranchingStory.Validation
