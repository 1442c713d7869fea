import FailFast.Window.Tally
import FailFast.Number.Word

/-!
# The calls of the last milliseconds

A time window keeps the outcomes of the last `span` milliseconds.  An outcome expires on its own
once its timestamp and the span together reach the reading of the clock.  Recording drops the
expired outcomes at the front; reading only skips them, so looking at a window never changes it.

Main results:

- `TimeWindow.outcomes_subset`: everything shown is held.
- `TimeWindow.exact_record`: the tally keeps counting exactly what is held.
- `TimeWindow.counts_eq`: the counts shown are those of what is held after the expired front.
-/

namespace FailFast

/-- The outcomes of the last `span` milliseconds. -/
structure TimeWindow where
  span : Nat
  slowAt : Nat
  buffer : Buffer
deriving DecidableEq, Inhabited

namespace TimeWindow

/-- An empty window. -/
def empty (span slowAt : Nat) : TimeWindow := ⟨span, slowAt, .empty⟩

/-- Whether an outcome has left the window at a reading. -/
def expired (span now : Nat) (o : Outcome) : Bool := decide (addClipped o.timestamp span ≤ now)

/-- The number of expired outcomes in front of the first live one. -/
def expiredFront (span now : Nat) (os : List Outcome) : Nat :=
  (os.takeWhile (expired span now)).length

/-- Append an outcome and drop the expired front, as of the later of the clock and its timestamp. -/
def record (w : TimeWindow) (now : Nat) (o : Outcome) : TimeWindow :=
  let pushed := w.buffer.push w.slowAt o
  let latest := max now o.timestamp
  { w with buffer := pushed.evict w.slowAt (expiredFront w.span latest pushed.outcomes) }

/-- Drop every outcome. -/
def clear (w : TimeWindow) : TimeWindow := { w with buffer := .empty }

/-- The counts of what is held after the expired front. -/
def counts (w : TimeWindow) (now : Nat) : Counts :=
  (w.buffer.evict w.slowAt (expiredFront w.span now w.buffer.outcomes)).tally.counts

/-- The live outcomes, oldest first. -/
def outcomes (w : TimeWindow) (now : Nat) : List Outcome :=
  w.buffer.outcomes.filter fun o => !expired w.span now o

theorem outcomes_subset (w : TimeWindow) (now : Nat) : w.outcomes now ⊆ w.buffer.outcomes :=
  fun _ h => (List.mem_filter.mp h).1

@[simp]
theorem outcomes_clear (w : TimeWindow) (now : Nat) : w.clear.outcomes now = [] := rfl

theorem exact_record {w : TimeWindow} (h : w.buffer.Exact w.slowAt) (now : Nat) (o : Outcome) :
    (w.record now o).buffer.Exact w.slowAt :=
  Buffer.exact_evict (Buffer.exact_push h o) _

theorem counts_eq {w : TimeWindow} (h : w.buffer.Exact w.slowAt) (now : Nat) :
    w.counts now =
      Counts.ofOutcomes w.slowAt
        (w.buffer.outcomes.drop (expiredFront w.span now w.buffer.outcomes)) :=
  Buffer.counts_eq (Buffer.exact_evict h _)

end TimeWindow

end FailFast
