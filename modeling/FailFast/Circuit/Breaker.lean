import FailFast.Circuit.State
import FailFast.Config

/-!
# The breaker

A breaker is a pure state machine.  Every operation takes the reading `now` of the breaker's clock
and answers with the next breaker and the transition it made, if any; no operation makes more than
one.

- `attempt` asks to run one call.  A closed breaker always admits; an open one first sees whether
  its wait is over, a half-open one whether its trial time is over; a half-open breaker then hands
  out one of its trial permits.
- `complete` records the outcome of an admitted call and judges it, `release` hands back a permit
  that was not used.  A permit carries the generation in which it was granted, and every change of
  state starts a new generation, so that what a call reports after a change of state is ignored.
- `check` applies the transitions that time alone causes, `forceOpen` and `reset` those that an
  operator asks for.

Main results:

- `moveTo_state`, `moveTo_generation`: entering a phase is one new generation in that state.
- `check_closed`: time alone never moves a closed breaker.
- `complete_stale`, `release_stale`: a permit of an older generation changes nothing.
-/

namespace FailFast

/-- What an open breaker remembers. -/
structure OpenPeriod where
  since : Nat
  /-- The milliseconds to wait before probing. -/
  wait : Nat
  /-- Whether the circuit was opened by hand; only a reset ends that. -/
  forced : Bool
deriving DecidableEq, Inhabited

/-- What a half-open breaker remembers.

Trial outcomes are counted here, independent of the window, so that the verdict covers every trial
call even where the window holds fewer. -/
structure TrialPeriod where
  since : Nat
  permits : Nat
  completed : Nat
  failures : Nat
  slow : Nat
deriving DecidableEq, Inhabited

namespace TrialPeriod

/-- A trial period in which nothing was granted yet. -/
def start (now permits : Nat) : TrialPeriod := ⟨now, permits, 0, 0, 0⟩

/-- The counts of the trial outcomes. -/
def counts (t : TrialPeriod) : Counts := ⟨t.completed, t.completed - t.failures, t.failures, t.slow⟩

/-- Count one trial outcome. -/
def count (slowAt : Nat) (t : TrialPeriod) (o : Outcome) : TrialPeriod :=
  { t with
    completed := t.completed + 1
    failures := if o.succeeded then t.failures else t.failures + 1
    slow := if o.isSlow slowAt then t.slow + 1 else t.slow }

end TrialPeriod

/-- The state of a breaker with what it remembers in it. -/
inductive Phase where
  | closed
  | opened (period : OpenPeriod)
  | halfOpen (trial : TrialPeriod)
deriving DecidableEq, Inhabited

/-- The observable state of a phase. -/
def Phase.state : Phase → State
  | closed => .closed
  | opened _ => .opened
  | halfOpen _ => .halfOpen

/-- A circuit breaker. -/
structure Breaker where
  name : String
  config : Config
  window : Window
  phase : Phase
  /-- The number of phases before this one; permits of earlier generations are stale. -/
  generation : Nat
  changedAt : Nat
  /-- The attempts rejected since the last reset. -/
  rejections : Nat
  /-- The random numbers that jittered waits depend on. -/
  draws : Draws
deriving Inhabited

/-- What an operation made of a breaker. -/
structure Moved where
  breaker : Breaker
  transition : Option Transition
deriving Inhabited

namespace Breaker

/-- A new breaker. -/
def fresh (name : String) (config : Config) (draws : Draws) (now : Nat) : Breaker where
  name := name
  config := config
  window := config.window
  phase := .closed
  generation := 0
  changedAt := now
  rejections := 0
  draws := draws

/-- The observable state. -/
def state (b : Breaker) : State := b.phase.state

/-- Whether the circuit was opened by hand and not reset since. -/
def isForced (b : Breaker) : Bool :=
  match b.phase with
  | .opened period => period.forced
  | _ => false

/-- The trial permits left. -/
def permits (b : Breaker) : Nat :=
  match b.phase with
  | .halfOpen trial => trial.permits
  | _ => 0

/-! ## Entering a phase -/

/-- Nothing happened. -/
def stays (b : Breaker) : Moved := ⟨b, none⟩

/-- Enter a phase with the given window. -/
def moveTo (b : Breaker) (now : Nat) (phase : Phase) (window : Window) : Moved where
  breaker := { b with phase, window, generation := b.generation + 1, changedAt := now }
  transition := some ⟨b.name, b.state, phase.state, now⟩

/-- Open the circuit; the window keeps its outcomes. -/
def toOpen (b : Breaker) (now : Nat) (forced : Bool) : Moved :=
  b.moveTo now (.opened ⟨now, b.config.openMillis (b.draws b.generation), forced⟩) b.window

/-- Start a trial with an empty window and all permits. -/
def toTrial (b : Breaker) (now : Nat) : Moved :=
  b.moveTo now (.halfOpen (.start now b.config.trialCalls)) b.window.clear

/-- Close the circuit with an empty window. -/
def toClosed (b : Breaker) (now : Nat) : Moved := b.moveTo now .closed b.window.clear

@[simp]
theorem moveTo_state (b : Breaker) (now : Nat) (phase : Phase) (window : Window) :
    (b.moveTo now phase window).breaker.state = phase.state := rfl

@[simp]
theorem moveTo_generation (b : Breaker) (now : Nat) (phase : Phase) (window : Window) :
    (b.moveTo now phase window).breaker.generation = b.generation + 1 := rfl

/-! ## Time -/

/-- Whether an open period is over: its wait has passed and it was not opened by hand. -/
def waited (period : OpenPeriod) (now : Nat) : Bool :=
  !period.forced && decide (period.wait ≤ now - period.since)

/-- Whether a trial period has lasted as long as it may. -/
def expired (config : Config) (trial : TrialPeriod) (now : Nat) : Bool :=
  match config.trialMillis with
  | none => false
  | some limit => decide (limit ≤ now - trial.since)

/-- The transition that time alone causes. -/
def check (b : Breaker) (now : Nat) : Moved :=
  match b.phase with
  | .closed => b.stays
  | .opened period => if waited period now then b.toTrial now else b.stays
  | .halfOpen trial => if expired b.config trial now then b.toOpen now false else b.stays

theorem check_closed {b : Breaker} (h : b.phase = .closed) (now : Nat) : b.check now = b.stays := by
  simp [check, h]

/-! ## Admission -/

/-- The answer to an attempt: the generation of the permit, or how long to stay away. -/
inductive Verdict where
  | granted (generation : Nat)
  | rejected (state : State) (retryAfter : Duration)
deriving DecidableEq, Inhabited

/-- How long an open circuit asks to stay away. -/
def openRetry (period : OpenPeriod) (now : Nat) : Duration :=
  if period.forced then .longest else .ofMillis (period.wait - (now - period.since))

/-- How long a saturated half-open circuit asks to stay away. -/
def trialRetry (config : Config) (trial : TrialPeriod) (now : Nat) : Duration :=
  match config.trialMillis with
  | none => .zero
  | some limit => .ofMillis (limit - (now - trial.since))

/-- Take one trial permit. -/
def take (b : Breaker) (trial : TrialPeriod) : Breaker :=
  { b with phase := .halfOpen { trial with permits := trial.permits - 1 } }

/-- Decide on an attempt in the current phase, whatever the time. -/
def decideNow (b : Breaker) (now : Nat) : Breaker × Verdict :=
  match b.phase with
  | .closed => (b, .granted b.generation)
  | .opened period => (b, .rejected .opened (openRetry period now))
  | .halfOpen trial =>
    if 0 < trial.permits then (b.take trial, .granted b.generation)
    else (b, .rejected .halfOpen (trialRetry b.config trial now))

/-- Ask to run one call. -/
def attempt (b : Breaker) (now : Nat) : Moved × Verdict :=
  let moved := b.check now
  let (breaker, verdict) := moved.breaker.decideNow now
  (⟨breaker, moved.transition⟩, verdict)

/-- Count a rejected attempt. -/
def countRejection (b : Breaker) : Breaker := { b with rejections := b.rejections + 1 }

/-! ## Settlement -/

/-- Whether the window holds enough calls and shows a rate at its threshold. -/
def trips (b : Breaker) (now : Nat) : Bool :=
  let counts := b.window.counts now
  decide (b.config.minimumCalls ≤ counts.total) && b.config.breached counts

/-- Judge a trial after an outcome was counted: on the last trial the circuit opens if a rate of the
trial reaches its threshold and closes if not; before that only the time limit ends the trial. -/
def judge (b : Breaker) (trial : TrialPeriod) (now : Nat) : Moved :=
  if b.config.trialCalls ≤ trial.completed then
    if b.config.breached trial.counts then b.toOpen now false else b.toClosed now
  else if expired b.config trial now then b.toOpen now false
  else b.stays

/-- Record the outcome of a call admitted in a generation and judge it. -/
def complete (b : Breaker) (now generation : Nat) (o : Outcome) : Moved :=
  if b.generation ≠ generation then b.stays
  else
    let recorded := { b with window := b.window.record now o }
    match b.phase with
    | .closed => if recorded.trips now then recorded.toOpen now false else recorded.stays
    | .opened _ => recorded.stays
    | .halfOpen trial =>
      let trial := trial.count b.config.slowMillis o
      { recorded with phase := .halfOpen trial }.judge trial now

/-- Hand back a permit that was not used. -/
def release (b : Breaker) (generation : Nat) : Breaker :=
  if b.generation ≠ generation then b
  else
    match b.phase with
    | .halfOpen trial => { b with phase := .halfOpen { trial with permits := trial.permits + 1 } }
    | _ => b

theorem complete_stale {b : Breaker} {generation : Nat} (h : b.generation ≠ generation)
    (now : Nat) (o : Outcome) : b.complete now generation o = b.stays := by
  simp [complete, h]

theorem release_stale {b : Breaker} {generation : Nat} (h : b.generation ≠ generation) :
    b.release generation = b := by
  simp [release, h]

/-! ## Operators -/

/-- Open the circuit until the next reset. -/
def forceOpen (b : Breaker) (now : Nat) : Moved :=
  match b.phase with
  | .opened period => { b with phase := .opened { period with forced := true } }.stays
  | _ => b.toOpen now true

/-- Close the circuit with an empty window and forget the rejections. -/
def reset (b : Breaker) (now : Nat) : Moved where
  breaker :=
    { b with
      window := b.window.clear
      phase := .closed
      generation := b.generation + 1
      changedAt := now
      rejections := 0 }
  transition := if b.state = .closed then none else some ⟨b.name, b.state, .closed, now⟩

@[simp]
theorem forceOpen_isForced (b : Breaker) (now : Nat) :
    (b.forceOpen now).breaker.isForced = true := by
  cases h : b.phase <;> simp [forceOpen, h, stays, toOpen, moveTo, isForced]

@[simp]
theorem reset_phase (b : Breaker) (now : Nat) : (b.reset now).breaker.phase = .closed := rfl

end Breaker

end FailFast
