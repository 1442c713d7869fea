import FailFast.Config
import FailFast.Time.Clock

/-!
# Window scripts

A script of records, waits and reads on one window, with a clock that was started together with it.

Main results:

- `WindowStage.play_reset`: after a reset the window shows nothing.
-/

namespace FailFast

/-- One step on a window. -/
inductive WindowStep where
  /-- Record an outcome a number of times, stamped with the reading if it has no time of its own. -/
  | record (o : Outcome) (stamped : Bool) (times : Nat)
  | advance (wait : Duration)
  | reset
  | outcomes
  | rates
  | now
deriving DecidableEq

/-- What a step on a window answers. -/
inductive WindowAnswer where
  | nothing
  | outcomes (os : List Outcome)
  | rates (total : Nat) (failureRate slowRate : Binary64)
  | now (reading : Nat)
deriving DecidableEq

/-- A window with its clock at an instant. -/
structure WindowStage where
  window : Window
  clock : Clock
  instant : Instant
deriving DecidableEq

namespace WindowStage

/-- A window at its creation. -/
def start (w : Window) : WindowStage := ⟨w, ⟨0⟩, 0⟩

/-- The reading of the clock. -/
def now (s : WindowStage) : Nat := s.clock.reading s.instant

/-- The counts of the window. -/
def counts (s : WindowStage) : Counts := s.window.counts s.now

/-- Record an outcome a number of times. -/
def record (o : Outcome) : Nat → WindowStage → WindowStage
  | 0, s => s
  | times + 1, s => record o times { s with window := s.window.record s.now o }

/-- Run one step. -/
def play (s : WindowStage) : WindowStep → WindowStage × WindowAnswer
  | .record o stamped times =>
    (s.record (if stamped then { o with timestamp := s.now } else o) times, .nothing)
  | .advance d => ({ s with instant := s.instant + d.nanos }, .nothing)
  | .reset => ({ s with window := s.window.clear }, .nothing)
  | .outcomes => (s, .outcomes (s.window.outcomes s.now))
  | .rates => (s, .rates s.counts.total s.counts.failureRate s.counts.slowRate)
  | .now => (s, .now s.now)

/-- Run steps in order; each answer comes with the counts after it. -/
def playAll : WindowStage → List WindowStep → List (WindowAnswer × Counts)
  | _, [] => []
  | s, step :: rest =>
    let (s, answer) := s.play step
    (answer, s.counts) :: s.playAll rest

theorem play_reset (s : WindowStage) : (s.play .reset).1.counts = .empty := by
  simp [play, counts]

end WindowStage

end FailFast
