import FailFast.Scenario.Report

/-!
# Sessions

The state of a scenario between two steps: the fleet, the registry while it lives, and what the
scenario holds on to: permits, circuits, subscriptions and sweepers.

The scenario may let go of the registry while calls that it made through it are under way.  Such
calls keep the registry alive until they return, but later steps do not see it any more.

Main results:

- `Session.visible_shutDown` and `Session.registry_shutDown`: once the scenario let go of the
  registry, no step sees it, and it lives on exactly while a call keeps it.
- `Session.isOver_registry`: while the registry lives its channel is not over.
- `put_lookup`: what is put under a name is found there.
-/

namespace FailFast

/-- Put a value under a name, in place of what was there. -/
def put {β : Type} (entries : List (String × β)) (id : String) (value : β) : List (String × β) :=
  (id, value) :: entries.filter (·.1 ≠ id)

@[simp]
theorem put_lookup {β : Type} (entries : List (String × β)) (id : String) (value : β) :
    (put entries id value).lookup id = some value := by
  simp [put]

/-- Background work that applies the transitions due, once every period. -/
structure Sweeper where
  period : Duration
  /-- When it is due next. -/
  due : Nat
  finished : Bool
deriving DecidableEq, Inhabited

/-- A permit that the scenario holds, with the number of its circuit. -/
structure HeldPermit where
  circuit : Nat
  permit : Permit
deriving DecidableEq, Inhabited

/-- The state of a scenario. -/
structure Session where
  fleet : Fleet
  /-- The registry while it lives. -/
  registry : Option Registry
  /-- Whether the scenario has let go of the registry. -/
  isShut : Bool
  /-- The number of steps under way that keep the registry alive. -/
  keepers : Nat
  /-- Time as background work sees it, in milliseconds. -/
  timer : Nat
  permits : List (String × HeldPermit)
  holds : List (String × Nat)
  subscribers : List (String × Nat)
  sweepers : List Sweeper
  /-- The number of calls whose operation is running. -/
  running : Nat
deriving Inhabited

namespace Session

/-- A session with one circuit and no registry. -/
def ofCircuit (c : Circuit) : Session :=
  ⟨(Fleet.start .standard).add c, none, false, 0, 0, [], [], [], [], 0⟩

/-- A session with a registry whose channel keeps a number of transitions. -/
def ofRegistry (r : Registry) (capacity : Nat) : Except CapacityError Session := do
  let channel ← Channel.ofCapacity capacity
  return ⟨.start channel, some r, false, 0, 0, [], [], [], [], 0⟩

/-! ## The life of the registry -/

/-- The registry as steps see it. -/
def visible (s : Session) : Option Registry := if s.isShut then none else s.registry

/-- Drop a registry that no one keeps. -/
def dropUnkept (s : Session) : Session :=
  if s.isShut && s.keepers == 0 then { s with registry := none } else s

/-- Let go of the registry. -/
def shutDown (s : Session) : Session := dropUnkept { s with isShut := true }

theorem visible_shutDown (s : Session) : s.shutDown.visible = none := by
  simp only [shutDown, dropUnkept, visible]
  split <;> simp_all

theorem registry_shutDown (s : Session) :
    s.shutDown.registry = if s.keepers = 0 then none else s.registry := by
  simp only [shutDown, dropUnkept]
  split <;> simp_all

/-- Whether no one is left who could publish a transition. -/
def isOver (s : Session) : Bool :=
  s.registry.isNone && s.holds.isEmpty && s.permits.isEmpty && s.running == 0

theorem isOver_registry {s : Session} {r : Registry} (h : s.registry = some r) :
    s.isOver = false := by
  simp [isOver, h]

/-- Operate on one circuit without an answer. -/
def change (s : Session) (i : Nat) (operation : Circuit → Instant → Returned Unit) :
    Session :=
  { s with fleet := s.fleet.change i operation }

/-- The circuit of a number. -/
def circuit? (s : Session) (i : Nat) : Option Circuit := s.fleet.circuits[i]?

/-! ## Finding the circuit of a step -/

/-- Which circuit steps are about that name no service. -/
inductive Scope where
  | circuit (i : Nat)
  | registry
deriving DecidableEq, Inhabited

/-- The circuit of a service in a registry, or the one at hand if no service is named; a service
that has no circuit yet gets one. -/
def targetIn (s : Session) (registry : Option Registry) (scope : Scope) (service : Option String) :
    Option (Session × Nat) :=
  match service, scope, registry with
  | none, .circuit i, _ => some (s, i)
  | some service, _, some r =>
    let (r, f, i) := r.obtain s.fleet service
    some ({ s with registry := some r, fleet := f }, i)
  | _, _, _ => none

/-- The circuit of a step. -/
def target (s : Session) (scope : Scope) (service : Option String) : Option (Session × Nat) :=
  s.targetIn s.visible scope service

/-- The circuit of a call under way, which has the registry that it keeps. -/
def callee (s : Session) (scope : Scope) (service : Option String) : Option (Session × Nat) :=
  s.targetIn s.registry scope service

/-- Run a call; one made through the registry keeps it alive until the call returns. -/
def keeping {α : Type} (s : Session) (scope : Scope) (call : Session → Session × Answer α) :
    Session × Answer α :=
  match scope with
  | .circuit _ => call s
  | .registry =>
    if s.isShut then (s, .inapplicable)
    else
      let (s, answer) := call { s with keepers := s.keepers + 1 }
      (dropUnkept { s with keepers := s.keepers - 1 }, answer)

/-! ## Permits -/

/-- Ask a circuit for a permit. -/
def acquire (s : Session) (i : Nat) : Session × Option (Except Rejected Permit) :=
  match s.fleet.perform i Circuit.acquire with
  | (f, none) => ({ s with fleet := f }, none)
  | (f, some (.ok p)) => ({ s with fleet := f }, some (.ok p))
  | (f, some (.error r)) =>
    let s := { s with fleet := f }
    let rejected := match s.circuit? i with
      | none => ⟨r, false⟩
      | some c => Rejected.of c.breaker.config r
    (s, some (.error rejected))

/-- Give up a permit. -/
def giveUp (s : Session) (held : HeldPermit) : Settlement → Session
  | .complete how => s.change held.circuit fun c instant => c.complete instant held.permit how
  | .release => s.change held.circuit fun c instant => c.release instant held.permit

/-- Keep a permit under a name; one that was there is released. -/
def keep (s : Session) (id : String) (held : HeldPermit) : Session :=
  let s := match s.permits.lookup id with
    | none => s
    | some old => s.giveUp old .release
  { s with permits := put s.permits id held }

/-- Give up the permit of a name. -/
def settle (s : Session) (id : String) (how : Settlement) : Option Session := do
  let held ← s.permits.lookup id
  let s := s.giveUp held how
  return { s with permits := s.permits.filter (·.1 ≠ id) }

/-- End an admitted call with what its operation returned. -/
def finish {α : Type} (s : Session) (i : Nat) (p : Permit) : Except Fault α → Session × CallResult α
  | .ok value => (s.change i fun c instant => c.complete instant p .succeeded, .returned value)
  | .error fault => (s.change i fun c instant => c.fault instant p fault, .failed fault)

/-! ## Reports -/

/-- What can be seen in a scope. -/
def view (s : Session) : Scope → View
  | .circuit i =>
    match s.fleet.metrics? i with
    | some m => .circuit m
    | none => .nothing
  | .registry =>
    match s.visible with
    | some r => .services (r.allMetrics s.fleet)
    | none => .nothing

/-- Report an answer with the notes since the last report.

Steps that visit several services do so in no particular order, so their notes are told service by
service. -/
def report {α : Type} (s : Session) (scope : Scope) (visitsAll : Bool) (answer : Answer α) :
    Session × Report α :=
  let events := s.fleet.journal.events
  let lines := s.fleet.journal.logLines
  let events :=
    if visitsAll then events.mergeSort fun a b => a.circuit ≤ b.circuit else events
  let lines := if visitsAll then lines.mergeSort fun a b => a.circuit ≤ b.circuit else lines
  ({ s with fleet := { s.fleet with journal := [] } }, .mk answer (s.view scope) events lines)

end Session

end FailFast
