import FailFast.Circuit.Breaker

/-!
# Metrics

A point-in-time view of one breaker.  Reading it never changes the breaker.

Main results:

- `Metrics.untouched_forced`: a service that was never called is not forced open.
-/

namespace FailFast

/-- The counters and rates of one circuit at one reading. -/
structure Metrics where
  circuit : String
  state : State
  counts : Counts
  failureRate : Binary64
  slowRate : Binary64
  /-- The attempts rejected since the last reset. -/
  rejections : Nat
  /-- The trial permits left. -/
  permits : Nat
  forced : Bool
  timeInState : Duration
deriving DecidableEq, Inhabited

/-- The metrics of a service that has no breaker yet. -/
def Metrics.untouched (circuit : String) : Metrics where
  circuit := circuit
  state := .closed
  counts := .empty
  failureRate := Counts.empty.failureRate
  slowRate := Counts.empty.slowRate
  rejections := 0
  permits := 0
  forced := false
  timeInState := .zero

/-- The metrics of a breaker at a reading. -/
def Breaker.metrics (b : Breaker) (now : Nat) : Metrics where
  circuit := b.name
  state := b.state
  counts := b.window.counts now
  failureRate := (b.window.counts now).failureRate
  slowRate := (b.window.counts now).slowRate
  rejections := b.rejections
  permits := b.permits
  forced := b.isForced
  timeInState := .ofMillis (now - b.changedAt)

@[simp]
theorem Metrics.untouched_forced (circuit : String) : (untouched circuit).forced = false := rfl

end FailFast
