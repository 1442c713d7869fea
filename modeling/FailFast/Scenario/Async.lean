import FailFast.Scenario.Sweeping

/-!
# Asynchronous calls

Asynchronous calls run at once on one thread.  Each is admitted when it first gets its turn; then
all calls that have not ended get their turns in order whenever the time comes at which one of them
is due.  At its turn a call ends if its operation is done, else if its timeout has passed; and when
the caller gives up, the calls that are still running are dropped and hand back their permits.

Main results:

- `Slot.isPending_ended`: a call that ended stays ended.
- `Session.turn_ended`: it gets no further turn.
-/

namespace FailFast

variable {α : Type}

/-- A call whose operation is running. -/
structure Pending (α : Type) where
  circuit : Nat
  permit : Permit
  job : Job α
  /-- When the operation is done, if ever. -/
  due : Option Nat
  /-- When the timeout has passed, and the timeout. -/
  deadline : Option (Nat × Duration)

/-- The place of one call: it is running or has ended with an answer. -/
inductive Slot (α : Type) where
  | pending (p : Pending α)
  | ended (answer : Answer α)

/-- Whether a call is running. -/
def Slot.isPending : Slot α → Bool
  | pending _ => true
  | ended _ => false

@[simp]
theorem Slot.isPending_ended (answer : Answer α) : (Slot.ended answer).isPending = false := rfl

/-- The answer of a call that ended. -/
def Slot.answer : Slot α → Answer α
  | pending _ => .inapplicable
  | ended answer => answer

/-- The times at which a call needs a turn. -/
def Slot.times : Slot α → List Nat
  | pending p => p.due.toList ++ (p.deadline.map (·.1)).toList
  | ended _ => []

/-- How the steps inside a call are run. -/
abbrev StepsRunner (α : Type) := Session → List (Step α) → Session × List (Report α)

namespace Session

/-- Whether a time has come. -/
def reached (s : Session) : Option Nat → Bool
  | none => false
  | some time => decide (time ≤ s.timer)

/-- A turn of a running call. -/
def poll (steps : StepsRunner α) (s : Session) (p : Pending α) :
    Session × Slot α :=
  if s.reached p.due then
    let (s, reports) := steps s p.job.inside
    let (s, result) := s.finish p.circuit p.permit p.job.result
    ({ s with running := s.running - 1 }, .ended (.execution result reports))
  else
    match p.deadline with
    | none => (s, .pending p)
    | some (deadline, timeout) =>
      if deadline ≤ s.timer then
        let name := ((s.circuit? p.circuit).map (·.breaker.name)).getD ""
        let s := s.change p.circuit fun c instant => c.timeOut instant p.permit timeout
        ({ s with running := s.running - 1 }, .ended (.execution (.timedOut name timeout) []))
      else (s, .pending p)

/-- The first turn of a call: ask for admission and start the operation. -/
def launch (steps : StepsRunner α) (scope : Scope) (s : Session) (job : Job α) :
    Session × Slot α :=
  match s.callee scope job.service with
  | none => (s, .ended .inapplicable)
  | some (s, i) =>
    match s.acquire i with
    | (s, none) => (s, .ended .inapplicable)
    | (s, some (.error r)) => (s, .ended (.execution (.rejected r) []))
    | (s, some (.ok permit)) =>
      let timeout := (s.circuit? i).bind (·.breaker.config.callTimeout)
      poll steps { s with running := s.running + 1 }
        { circuit := i
          permit := permit
          job := job
          due := job.took.map s.wakeTime
          deadline := timeout.map fun d => (s.deadline d, d) }

/-- First turns of calls, in order. -/
def launchAll (steps : StepsRunner α) (scope : Scope) :
    Session → List (Job α) → Session × List (Slot α)
  | s, [] => (s, [])
  | s, job :: rest =>
    let (s, slot) := s.launch steps scope job
    let (s, slots) := launchAll steps scope s rest
    (s, slot :: slots)

/-- A turn of a call if it is still running. -/
def turn (steps : StepsRunner α) (s : Session) : Slot α → Session × Slot α
  | .pending p => s.poll steps p
  | .ended answer => (s, .ended answer)

@[simp]
theorem turn_ended (steps : StepsRunner α) (s : Session) (answer : Answer α) :
    s.turn steps (.ended answer) = (s, .ended answer) := rfl

/-- Turns of all running calls, in order. -/
def turns (steps : StepsRunner α) :
    Session → List (Slot α) → Session × List (Slot α)
  | s, [] => (s, [])
  | s, slot :: rest =>
    let (s, slot) := s.turn steps slot
    let (s, slots) := turns steps s rest
    (s, slot :: slots)

/-- Drop a call that is still running. -/
def dropCall (s : Session) : Slot α → Session × Slot α
  | .pending p =>
    let s := s.change p.circuit fun c instant => c.release instant p.permit
    ({ s with running := s.running - 1 }, .ended .cancelled)
  | .ended answer => (s, .ended answer)

/-- Drop all calls that are still running. -/
def dropCalls : Session → List (Slot α) → Session × List (Slot α)
  | s, [] => (s, [])
  | s, slot :: rest =>
    let (s, slot) := s.dropCall slot
    let (s, slots) := dropCalls s rest
    (s, slot :: slots)

/-- Let time pass from turn to turn until no call is running, in at most `fuel` rounds.

Every round ends a call, so the number of calls is enough. -/
def await (steps : StepsRunner α) (giveUpAt : Option Nat) :
    Nat → Session → List (Slot α) → Session × List (Slot α)
  | 0, s, slots => (s, slots)
  | fuel + 1, s, slots =>
    if !slots.any Slot.isPending then (s, slots)
    else if s.reached giveUpAt then s.dropCalls slots
    else
      match (slots.flatMap Slot.times ++ giveUpAt.toList).min? with
      | none => (s, slots)
      | some time =>
        let (s, slots) := (s.passTo time).turns steps slots
        await steps giveUpAt fuel s slots

/-- Run asynchronous calls at once, until they have ended or the caller gives up. -/
def executeAll (steps : StepsRunner α) (scope : Scope) (s : Session) (jobs : List (Job α))
    (giveUpAfter : Option Duration) : Session × List (Answer α) :=
  let giveUpAt := giveUpAfter.map s.deadline
  let (s, slots) := s.launchAll steps scope jobs
  let (s, slots) := await steps giveUpAt (jobs.length + 2) s slots
  (s.endBackground, slots.map Slot.answer)

end Session

end FailFast
