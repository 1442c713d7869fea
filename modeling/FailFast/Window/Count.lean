import FailFast.Window.Tally

/-!
# The last calls

A count window keeps the outcomes of the last `capacity` calls.

Main results:

- `CountWindow.outcomes_record`: recording appends and keeps the last `capacity` outcomes.
- `CountWindow.exact_record`: the tally keeps counting exactly what is held.
-/

namespace FailFast

/-- The last `capacity` outcomes. -/
structure CountWindow where
  capacity : Nat
  slowAt : Nat
  buffer : Buffer
deriving DecidableEq, Inhabited

namespace CountWindow

/-- An empty window. -/
def empty (capacity slowAt : Nat) : CountWindow := ⟨capacity, slowAt, .empty⟩

/-- Append an outcome and drop the oldest ones above capacity. -/
def record (w : CountWindow) (o : Outcome) : CountWindow :=
  let pushed := w.buffer.push w.slowAt o
  { w with buffer := pushed.evict w.slowAt (pushed.outcomes.length - w.capacity) }

/-- Drop every outcome. -/
def clear (w : CountWindow) : CountWindow := { w with buffer := .empty }

/-- The counts of what is held. -/
def counts (w : CountWindow) : Counts := w.buffer.tally.counts

/-- What is held, oldest first. -/
def outcomes (w : CountWindow) : List Outcome := w.buffer.outcomes

@[simp]
theorem outcomes_record (w : CountWindow) (o : Outcome) :
    (w.record o).outcomes =
      (w.outcomes ++ [o]).drop ((w.outcomes ++ [o]).length - w.capacity) := rfl

@[simp]
theorem outcomes_clear (w : CountWindow) : w.clear.outcomes = [] := rfl

theorem exact_record {w : CountWindow} (h : w.buffer.Exact w.slowAt) (o : Outcome) :
    (w.record o).buffer.Exact w.slowAt :=
  Buffer.exact_evict (Buffer.exact_push h o) _

end CountWindow

end FailFast
