import FailFast.Registry

/-!
# Steps of a scenario

A scenario is a list of steps in virtual time.  Most steps act on one circuit: the circuit at hand,
or the one registered for a service that the step names.  A guarded call may have steps of its own
that happen while its operation runs, so steps nest.

Main results:

- `Step.depth_pos`: every step has a positive depth, and steps inside it a smaller one.
-/

namespace FailFast

/-- How a permit is given up. -/
inductive Settlement where
  | complete (how : Completion)
  | release
deriving DecidableEq, Inhabited

mutual

/-- One step. -/
inductive Step (α : Type) where
  /-- Let the clocks of circuits run without letting background work run. -/
  | advance (wait : Duration)
  /-- Let time pass. -/
  | sleep (wait : Duration)
  /-- A guarded call: its operation takes time, runs steps, and returns. -/
  | call (service : Option String) (result : Except Fault α) (took : Duration)
      (inside : List (Step α)) (times : Nat)
  | execute (job : Job α)
  /-- An asynchronous call that is dropped after a while unless it has ended. -/
  | executeCancel (job : Job α) (after : Duration)
  /-- Asynchronous calls that run at once. -/
  | executeMany (jobs : List (Job α))
  | acquire (service : Option String) (id : String)
  | settle (id : String) (how : Settlement)
  | elapsed (id : String)
  | debugPermit (id : String)
  | state (service : Option String)
  | metrics (service : Option String)
  | outcomes
  | forceOpen (service : Option String)
  | reset (service : Option String)
  | check
  | config
  | name
  | debug
  | allMetrics
  | resetAll
  | names
  | remove (service : String)
  | configure (service : String) (edits : List ConfigEdit)
  | breaker (service : String)
  | create (service : String)
  | hold (service id : String)
  | on (id : String) (step : Step α)
  | same (service id : String)
  | letGo (id : String)
  | checkTransitions
  | subscribe (id : String)
  | receive (id : String)
  | drain (id : String)
  | unsubscribe (id : String)
  | sweeper (period : Duration)
  | sweepers
  | stopSweepers
  /-- Let go of the registry. -/
  | shutdown

/-- A guarded asynchronous operation; one without a duration never ends by itself. -/
inductive Job (α : Type) where
  | mk (service : Option String) (result : Except Fault α) (took : Option Duration)
      (inside : List (Step α))

end

variable {α : Type}

namespace Job

/-- The service that an asynchronous call is for. -/
def service : Job α → Option String
  | mk service _ _ _ => service

/-- What the operation returns. -/
def result : Job α → Except Fault α
  | mk _ result _ _ => result

/-- How long the operation takes. -/
def took : Job α → Option Duration
  | mk _ _ took _ => took

/-- The steps that the operation runs before it returns. -/
def inside : Job α → List (Step α)
  | mk _ _ _ inside => inside

end Job

mutual

/-- How deep steps are nested in a step, itself included. -/
def Step.depth : Step α → Nat
  | .call _ _ _ inside _ => Step.listDepth inside + 1
  | .execute job => job.depth + 1
  | .executeCancel job _ => job.depth + 1
  | .executeMany jobs => Job.listDepth jobs + 1
  | .on _ step => step.depth + 1
  | _ => 1

/-- How deep steps are nested in an operation. -/
def Job.depth : Job α → Nat
  | .mk _ _ _ inside => Step.listDepth inside

/-- How deep steps are nested in a list of steps. -/
def Step.listDepth : List (Step α) → Nat
  | [] => 0
  | step :: rest => max step.depth (Step.listDepth rest)

/-- How deep steps are nested in a list of operations. -/
def Job.listDepth : List (Job α) → Nat
  | [] => 0
  | job :: rest => max job.depth (Job.listDepth rest)

end

theorem Step.depth_pos (step : Step α) : 0 < step.depth := by
  cases step <;> simp [depth]

end FailFast
