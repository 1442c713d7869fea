import FailFast.Scenario.Step

/-!
# Reports of a scenario

Every step answers, and its report adds what can be seen afterwards: the circuit at hand or the
registered services, and what was noted since the last report.  A call reports the steps that its
operation ran.

Main results:

- `Rejected.isJittered_forced`: the answer of a circuit opened by hand is never random.
-/

namespace FailFast

/-- A rejected attempt, and whether the time it names is random. -/
structure Rejected where
  rejection : Rejection
  jittered : Bool
deriving DecidableEq, Inhabited

/-- A rejection by a circuit; the wait of an open circuit is random if it is jittered, unless the
circuit was opened by hand. -/
def Rejected.of (config : Config) (r : Rejection) : Rejected where
  rejection := r
  jittered := config.isJittered && decide (r.state = .opened) && decide (r.retryAfter ≠ .longest)

theorem Rejected.isJittered_forced (config : Config) (circuit : String) (state : State) :
    (Rejected.of config ⟨circuit, state, .longest⟩).jittered = false := by
  simp [Rejected.of]

/-- How a guarded call ended. -/
inductive CallResult (α : Type) where
  | returned (value : α)
  | failed (fault : Fault)
  | rejected (r : Rejected)
  | timedOut (circuit : String) (timeout : Duration)
deriving Inhabited

/-- The error that a guarded call returns. -/
def CallResult.error? {α : Type} : CallResult α → Option CallError
  | returned _ => none
  | failed fault => some (.failed fault)
  | rejected r => some (.rejected r.rejection)
  | timedOut circuit timeout => some (.timedOut circuit timeout)

/-- Whether the operation of a call was invoked. -/
def CallResult.ran {α : Type} : CallResult α → Bool
  | rejected _ => false
  | _ => true

/-- Whether the operation of a call ran to its end. -/
def CallResult.done {α : Type} : CallResult α → Bool
  | returned _ => true
  | failed _ => true
  | _ => false

/-- What can be seen after a step. -/
inductive View where
  /-- The circuit at hand. -/
  | circuit (m : Metrics)
  /-- The registered services, in the order of their names. -/
  | services (ms : List Metrics)
  /-- Nothing: the registry is gone. -/
  | nothing
deriving Inhabited

mutual

/-- What a step answers. -/
inductive Answer (α : Type) where
  | nothing
  | call (result : CallResult α) (inside : List (Report α))
  /-- An asynchronous call that ended. -/
  | execution (result : CallResult α) (inside : List (Report α))
  | cancelled
  | many (answers : List (Answer α))
  | granted
  | rejected (r : Rejected)
  | noSuchPermit
  | duration (d : Duration)
  | text (s : String)
  | texts (ss : List String)
  | truth (b : Bool)
  | truths (bs : List Bool)
  | state (s : State)
  | stateTests (s : State)
  | metrics (m : Metrics)
  | allMetrics (ms : List Metrics)
  | outcomes (os : List Outcome)
  | config (c : Config)
  | configError (e : ConfigError)
  | circuit (name : String) (config : Config)
  | removed (m : Metrics)
  | on (answer : Answer α) (m : Metrics)
  | receipt (r : Receipt)
  | receipts (rs : List Receipt)
  | refused (reason : String)
  /-- The step does not apply here. -/
  | inapplicable

/-- A step's answer with what could be seen after it. -/
inductive Report (α : Type) where
  | mk (answer : Answer α) (view : View) (events : List Event) (lines : List LogLine)

end

instance {α : Type} : Inhabited (Answer α) := ⟨.nothing⟩

end FailFast
