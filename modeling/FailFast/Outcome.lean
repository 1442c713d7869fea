import FailFast.Number.Binary64

/-!
# Call outcomes and their counts

An outcome is what one completed call leaves behind.  Counts sum outcomes up, and a rate is a share
of the total as a percentage: the quotient and the product by one hundred are each rounded once.

Main results:

- `Outcome.isSlow_timeout`: a call that timed out is slow whatever the threshold.
- `percentage_zero_total`: with nothing counted every rate is zero.
-/

namespace FailFast

/-- The recorded result of one completed call; times are milliseconds. -/
structure Outcome where
  succeeded : Bool
  duration : Nat
  timestamp : Nat
  timedOut : Bool
deriving DecidableEq, Inhabited

namespace Outcome

/-- A call that returned a value. -/
def success (duration timestamp : Nat) : Outcome := ⟨true, duration, timestamp, false⟩

/-- A call that returned an error. -/
def failure (duration timestamp : Nat) : Outcome := ⟨false, duration, timestamp, false⟩

/-- A call given up after its timeout. -/
def timeout (duration timestamp : Nat) : Outcome := ⟨false, duration, timestamp, true⟩

/-- A call is slow when it timed out or ran longer than the threshold. -/
def isSlow (o : Outcome) (threshold : Nat) : Bool :=
  o.timedOut || decide (threshold < o.duration)

@[simp]
theorem isSlow_timeout (duration timestamp threshold : Nat) :
    (timeout duration timestamp).isSlow threshold = true := rfl

end Outcome

/-! ## Counts -/

/-- Consistent counts of a collection of outcomes. -/
structure Counts where
  total : Nat
  successes : Nat
  failures : Nat
  slow : Nat
deriving DecidableEq, Inhabited

/-- A share of a total as a percentage, zero when the total is zero. -/
def percentage (part total : Nat) : Binary64 :=
  if total = 0 then .zero
  else
    let quotient := Binary64.rankQuotient (Binary64.rankOfNat part) (Binary64.rankOfNat total)
    .signed false (Binary64.rankProduct quotient (Binary64.rankOfNat 100))

@[simp]
theorem percentage_zero_total (part : Nat) : percentage part 0 = .zero := rfl

namespace Counts

/-- No outcomes. -/
def empty : Counts := ⟨0, 0, 0, 0⟩

/-- The percentage of failed calls. -/
def failureRate (c : Counts) : Binary64 := percentage c.failures c.total

/-- The percentage of slow calls. -/
def slowRate (c : Counts) : Binary64 := percentage c.slow c.total

/-- The counts of a list of outcomes under a slow-call threshold. -/
def ofOutcomes (slowAt : Nat) (os : List Outcome) : Counts where
  total := os.length
  successes := os.countP (·.succeeded)
  failures := os.countP (!·.succeeded)
  slow := os.countP (·.isSlow slowAt)

end Counts

end FailFast
