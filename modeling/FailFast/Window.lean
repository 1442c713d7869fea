import FailFast.Window.Count
import FailFast.Window.Timed

/-!
# Sliding windows

A breaker judges recent calls, held in a window of either kind.  Every operation takes the reading
of the clock, which a count window ignores.

Main results:

- `Window.outcomes_clear`: a cleared window shows nothing.
- `Window.counts_clear`: and counts nothing.
-/

namespace FailFast

/-- A window over recent outcomes. -/
inductive Window where
  | lastCalls (w : CountWindow)
  | lastMillis (w : TimeWindow)
deriving DecidableEq, Inhabited

namespace Window

/-- Append an outcome and let old ones go. -/
def record (now : Nat) (o : Outcome) : Window → Window
  | lastCalls w => lastCalls (w.record o)
  | lastMillis w => lastMillis (w.record now o)

/-- Drop every outcome. -/
def clear : Window → Window
  | lastCalls w => lastCalls w.clear
  | lastMillis w => lastMillis w.clear

/-- The counts at a reading. -/
def counts (now : Nat) : Window → Counts
  | lastCalls w => w.counts
  | lastMillis w => w.counts now

/-- The outcomes inside the window at a reading, oldest first. -/
def outcomes (now : Nat) : Window → List Outcome
  | lastCalls w => w.outcomes
  | lastMillis w => w.outcomes now

/-- What the window is limited to: a number of calls or of milliseconds. -/
def limit : Window → Nat
  | lastCalls w => w.capacity
  | lastMillis w => w.span

@[simp]
theorem outcomes_clear (now : Nat) (w : Window) : w.clear.outcomes now = [] := by
  cases w <;> rfl

@[simp]
theorem counts_clear (now : Nat) (w : Window) : w.clear.counts now = .empty := by
  cases w <;> rfl

@[simp]
theorem clear_clear (w : Window) : w.clear.clear = w.clear := by
  cases w <;> rfl

end Window

end FailFast
