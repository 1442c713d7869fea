import FailFast.Circuit.Callbacks
import FailFast.Circuit.Metrics
import FailFast.Text.Quoted

/-!
# Circuits

A circuit is a breaker in use: a clock that gives its operations their readings, the callbacks that
are told of its transitions, and the classifier of its errors.  Every operation begins at an instant
and answers with the next circuit, the instant at which it returns, and what was noted.  It takes
time only where a hook does.

Main results:

- `Circuit.perform_clock`, `Circuit.perform_callbacks`: an operation changes the breaker only.
-/

namespace FailFast

/-- Admission for one call: the generation it belongs to and when it was granted. -/
structure Permit where
  generation : Nat
  grantedAt : Instant
deriving DecidableEq, Inhabited

/-- The time since a permit was granted. -/
def Permit.elapsed (p : Permit) (instant : Instant) : Duration := ⟨instant - p.grantedAt⟩

/-- A permit in diagnostics; a permit that can still be looked at is not settled. -/
def Permit.debugText (p : Permit) (circuit : String) : String :=
  "Permit \x7b circuit: " ++ Text.quoted circuit ++ ", generation: " ++ Nat.repr p.generation
    ++ ", settled: false \x7d"

/-- How a call ended. -/
inductive Completion where
  | succeeded
  | failed
  | timedOut
deriving DecidableEq, Inhabited

/-- A breaker in use. -/
structure Circuit where
  breaker : Breaker
  clock : Clock
  callbacks : Callbacks
  classifier : Option Classifier
deriving Inhabited

/-- What an operation comes to: the circuit, the instant at which the operation returns, what was
noted, and the answer. -/
abbrev Returned (α : Type) := Circuit × Instant × Journal × α

namespace Circuit

/-- A new circuit, made at an instant; its jittered waits draw one half each time. -/
def fresh (name : String) (config : Config) (callbacks : Callbacks)
    (classifier : Option Classifier) (instant : Instant) : Circuit where
  breaker := .fresh name config .halves (Clock.reading ⟨instant⟩ instant)
  clock := ⟨instant⟩
  callbacks := callbacks
  classifier := classifier

/-- The reading of the circuit's clock. -/
def now (c : Circuit) (instant : Instant) : Nat := c.clock.reading instant

/-- The metrics of the circuit. -/
def metrics (c : Circuit) (instant : Instant) : Metrics := c.breaker.metrics (c.now instant)

/-- The outcomes in the window, oldest first. -/
def outcomes (c : Circuit) (instant : Instant) : List Outcome :=
  c.breaker.window.outcomes (c.now instant)

/-- A circuit in diagnostics. -/
def debugText (c : Circuit) : String :=
  "CircuitBreaker \x7b name: " ++ Text.quoted c.breaker.name ++ ", state: "
    ++ c.breaker.state.label ++ ", callbacks: " ++ c.callbacks.debugText ++ " \x7d"

/-- The scene in which an operation begins. -/
def scene (c : Circuit) (instant : Instant) : Scene := ⟨c.breaker, c.clock, instant, [], []⟩

@[simp]
theorem scene_breaker (c : Circuit) (instant : Instant) : (c.scene instant).breaker = c.breaker :=
  rfl

@[simp]
theorem scene_now (c : Circuit) (instant : Instant) : (c.scene instant).now = c.now instant := rfl

/-- How the callbacks are told of transitions. -/
def announcer (c : Circuit) : Announcer := c.callbacks.announce c.classifier c.callbacks.depth

/-- Run an operation on the breaker from an instant on. -/
def perform {α : Type} (c : Circuit) (instant : Instant)
    (operation : Scene → Announcer → Scene × α) : Returned α :=
  let (s, answer) := operation (c.scene instant) c.announcer
  ({ c with breaker := s.breaker }, s.instant, s.journal, answer)

@[simp]
theorem perform_clock {α : Type} (c : Circuit) (instant : Instant)
    (operation : Scene → Announcer → Scene × α) :
    (c.perform instant operation).1.clock = c.clock := rfl

@[simp]
theorem perform_callbacks {α : Type} (c : Circuit) (instant : Instant)
    (operation : Scene → Announcer → Scene × α) :
    (c.perform instant operation).1.callbacks = c.callbacks := rfl

/-! ## Operations -/

/-- Ask to run one call; the permit counts its time from when it is handed to the caller. -/
def acquire (c : Circuit) (instant : Instant) : Returned (Except Rejection Permit) :=
  c.perform instant fun s announce =>
    let (s, verdict) := s.acquire announce
    (s, verdict.map fun generation => ⟨generation, s.instant⟩)

/-- Report how an admitted call ended. -/
def complete (c : Circuit) (instant : Instant) (p : Permit) (how : Completion) : Returned Unit :=
  c.perform instant fun s announce =>
    (s.complete announce p.generation (how = .succeeded) (how = .timedOut) (p.elapsed instant), ())

/-- Give up an admitted call after its timeout. -/
def timeOut (c : Circuit) (instant : Instant) (p : Permit) (timeout : Duration) : Returned Unit :=
  c.perform instant fun s announce =>
    ((s.note (.timedOut s.breaker.name timeout)).complete announce p.generation false true
      (p.elapsed instant), ())

/-- Report that an admitted call failed with an error. -/
def fault (c : Circuit) (instant : Instant) (p : Permit) (fault : Fault) : Returned Unit :=
  c.perform instant fun s announce =>
    (s.fault announce c.classifier p.generation fault (p.elapsed instant), ())

/-- Hand back a permit that was not used. -/
def release (c : Circuit) (instant : Instant) (p : Permit) : Returned Unit :=
  c.perform instant fun s _ => (s.release p.generation, ())

/-- Apply the transitions due. -/
def check (c : Circuit) (instant : Instant) : Returned State :=
  c.perform instant fun s announce => s.check announce

/-- Open the circuit until the next reset. -/
def forceOpen (c : Circuit) (instant : Instant) : Returned Unit :=
  c.perform instant fun s announce => (s.forceOpen announce, ())

/-- Close the circuit with an empty window. -/
def reset (c : Circuit) (instant : Instant) : Returned Unit :=
  c.perform instant fun s announce => (s.reset announce, ())

end Circuit

end FailFast
