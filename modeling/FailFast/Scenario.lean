import FailFast.Scenario.Async

/-!
# Scenarios

A scenario plays its steps in order on a session and reports each of them.

Steps nest, so the player of one step is made from a player of the steps inside it; a scenario as
deep as its steps plays them all.

Main results:

- `Scenario.play_nil`: a scenario without steps reports nothing.
- `Scenario.playAll_length`: there is one report for each step.
-/

namespace FailFast

variable {α : Type}

/-- How one step is run. -/
abbrev StepRunner (α : Type) := Session.Scope → Session → Step α → Session × Answer α

/-- Whether a step visits all services, in no particular order. -/
def Step.visitsAll : Step α → Bool
  | .resetAll => true
  | .checkTransitions => true
  | .sleep _ => true
  | .sweeper _ => true
  | _ => false

namespace Session

/-- Run steps in order and report each of them. -/
def runAll (one : StepRunner α) (scope : Scope) :
    Session → List (Step α) → Session × List (Report α)
  | s, [] => (s, [])
  | s, step :: rest =>
    let (s, answer) := one scope s step
    let (s, report) := s.report scope step.visitsAll answer
    let (s, reports) := runAll one scope s rest
    (s, report :: reports)

theorem runAll_length (one : StepRunner α) (scope : Scope) (s : Session)
    (steps : List (Step α)) : (runAll one scope s steps).2.length = steps.length := by
  induction steps generalizing s with
  | nil => rfl
  | cons step rest ih => simp [runAll, ih]

/-! ## Calls -/

/-- A guarded call. -/
def call (steps : StepsRunner α) (scope : Scope) (s : Session) (service : Option String)
    (result : Except Fault α) (took : Duration) (inside : List (Step α)) :
    Session × Answer α :=
  match s.callee scope service with
  | none => (s, .inapplicable)
  | some (s, i) =>
    match s.acquire i with
    | (s, none) => (s, .inapplicable)
    | (s, some (.error r)) => (s, .call (.rejected r) [])
    | (s, some (.ok permit)) =>
      let s := { s with fleet := s.fleet.wait took, running := s.running + 1 }
      let (s, reports) := steps s inside
      let (s, result) := s.finish i permit result
      ({ s with running := s.running - 1 }, .call result reports)

/-- A guarded call made a number of times; the answer is that of the last one. -/
def calls (steps : StepsRunner α) (scope : Scope) (service : Option String)
    (result : Except Fault α) (took : Duration) (inside : List (Step α)) :
    Nat → Session → Answer α → Session × Answer α
  | 0, s, answer => (s, answer)
  | times + 1, s, _ =>
    let (s, answer) := s.call steps scope service result took inside
    calls steps scope service result took inside times s answer

/-! ## Steps on one circuit -/

/-- Read something off the circuit of a step. -/
def read (s : Session) (scope : Scope) (view : Circuit → Answer α) : Session × Answer α :=
  match scope with
  | .circuit i =>
    match s.circuit? i with
    | some c => (s, view c)
    | none => (s, .inapplicable)
  | .registry => (s, .inapplicable)

/-- Operate on the circuit of a step. -/
def operate (s : Session) (scope : Scope) (service : Option String)
    (operation : Circuit → Instant → Returned Unit) : Session × Answer α :=
  match s.target scope service with
  | none => (s, .inapplicable)
  | some (s, i) => (s.change i operation, .nothing)

/-- Ask for a permit and keep it under a name. -/
def acquireAs (s : Session) (scope : Scope) (service : Option String) (id : String) :
    Session × Answer α :=
  match s.target scope service with
  | none => (s, .inapplicable)
  | some (s, i) =>
    match s.acquire i with
    | (s, none) => (s, .inapplicable)
    | (s, some (.error r)) => (s, .rejected r)
    | (s, some (.ok permit)) => (s.keep id ⟨i, permit⟩, .granted)

/-- Look at a permit that is held. -/
def inspect (s : Session) (id : String) (view : Permit → Circuit → Answer α) :
    Session × Answer α :=
  match s.permits.lookup id with
  | none => (s, .noSuchPermit)
  | some held =>
    match s.circuit? held.circuit with
    | none => (s, .inapplicable)
    | some c => (s, view held.permit c)

/-! ## Steps on the registry -/

/-- Answer from the registry. -/
def ask (s : Session) (view : Registry → Answer α) : Session × Answer α :=
  match s.visible with
  | none => (s, .inapplicable)
  | some r => (s, view r)

/-- Change the fleet through the registry. -/
def sweepAll (s : Session) (operation : Registry → Fleet → Fleet) : Session × Answer α :=
  match s.visible with
  | none => (s, .inapplicable)
  | some r => ({ s with fleet := operation r s.fleet }, .nothing)

/-- Reset a service; one that was never used is left alone. -/
def resetService (s : Session) (service : String) : Session × Answer α :=
  match s.visible with
  | none => (s, .inapplicable)
  | some r =>
    match r.find? service with
    | none => (s, .nothing)
    | some i => (s.change i Circuit.reset, .nothing)

/-- Forget the circuit of a service. -/
def removeService (s : Session) (service : String) : Session × Answer α :=
  match s.visible with
  | none => (s, .inapplicable)
  | some r =>
    let (r, old) := r.remove service
    let s := { s with registry := some r }
    match old.bind s.fleet.metrics? with
    | none => (s, .nothing)
    | some m => (s, .removed m)

/-- Give a service a configuration of its own. -/
def configureService (s : Session) (service : String) (edits : List ConfigEdit) :
    Session × Answer α :=
  match s.visible with
  | none => (s, .inapplicable)
  | some r =>
    match Config.standard.build edits with
    | .error e => (s, .configError e)
    | .ok config =>
      let (r, f) := r.configure s.fleet service config
      ({ s with registry := some r, fleet := f }, .nothing)

/-- Describe a circuit by its name and configuration. -/
def describe (s : Session) (i : Nat) : Answer α :=
  match s.circuit? i with
  | none => .inapplicable
  | some c => .circuit c.breaker.name c.breaker.config

/-- Keep the circuit of a service under a name. -/
def holdService (s : Session) (scope : Scope) (service id : String) : Session × Answer α :=
  match s.target scope (some service) with
  | none => (s, .inapplicable)
  | some (s, i) => ({ s with holds := put s.holds id i }, .nothing)

/-- Whether a held circuit is the one registered for a service. -/
def isSame (s : Session) (service id : String) : Bool :=
  match s.holds.lookup id, s.visible.bind (·.find? service) with
  | some held, some registered => held == registered
  | _, _ => false

/-- Run a step on a held circuit. -/
def runOn (one : StepRunner α) (s : Session) (id : String) (step : Step α) : Session × Answer α :=
  match s.holds.lookup id with
  | none => (s, .inapplicable)
  | some i =>
    let (s, answer) := one (.circuit i) s step
    match s.fleet.metrics? i with
    | none => (s, .inapplicable)
    | some m => (s, .on answer m)

/-! ## Subscriptions -/

/-- Receive one transition. -/
def receive (s : Session) (id : String) : Session × Answer α :=
  match s.subscribers.lookup id with
  | none => (s, .inapplicable)
  | some position =>
    let (receipt, position) := s.fleet.channel.receive s.isOver position
    ({ s with subscribers := put s.subscribers id position }, .receipt receipt)

/-- Receive all transitions that are there. -/
def drain (s : Session) (id : String) : Session × Answer α :=
  match s.subscribers.lookup id with
  | none => (s, .inapplicable)
  | some position =>
    let channel := s.fleet.channel
    let (receipts, position) := channel.drain s.isOver (channel.published.length + 2) position
    ({ s with subscribers := put s.subscribers id position }, .receipts receipts)

/-! ## Sweepers -/

/-- Start a sweeper; a sweeper without a period is refused. -/
def addSweeper (s : Session) (period : Duration) : Session × Answer α :=
  if s.visible.isNone then (s, .inapplicable)
  else if period = .zero then (s, .refused "sweeper period must be non-zero")
  else (s.startSweeper period, .nothing)

/-! ## One step -/

/-- Run one step, given a player of the steps inside it; those inside a call are about what the
scenario is about, whichever circuit the call is for. -/
def run (one : StepRunner α) (home scope : Scope) (s : Session) (step : Step α) :
    Session × Answer α :=
  let steps : StepsRunner α := fun s inside => runAll one home s inside
  match step with
  | .advance wait => ({ s with fleet := s.fleet.wait wait }, .nothing)
  | .sleep wait => (s.sleep wait, .nothing)
  | .call service result took inside times =>
    s.keeping scope fun s => calls steps scope service result took inside times s .nothing
  | .execute job =>
    s.keeping scope fun s =>
      let (s, answers) := s.executeAll steps scope [job] none
      (s, answers.headD .inapplicable)
  | .executeCancel job after =>
    s.keeping scope fun s =>
      let (s, answers) := s.executeAll steps scope [job] (some after)
      (s, answers.headD .inapplicable)
  | .executeMany jobs =>
    s.keeping scope fun s =>
      let (s, answers) := s.executeAll steps scope jobs none
      (s, .many answers)
  | .acquire service id => s.acquireAs scope service id
  | .settle id how =>
    match s.settle id how with
    | none => (s, .noSuchPermit)
    | some s => (s, .nothing)
  | .elapsed id => s.inspect id fun p _ => .duration (p.elapsed s.fleet.instant)
  | .debugPermit id => s.inspect id fun p c => .text (p.debugText c.breaker.name)
  | .state none => s.read scope fun c => .stateTests c.breaker.state
  | .state (some service) => s.ask fun r => .state (r.state s.fleet service)
  | .metrics none => s.read scope fun c => .metrics (c.metrics s.fleet.instant)
  | .metrics (some service) => s.ask fun r => .metrics (r.metrics s.fleet service)
  | .outcomes => s.read scope fun c => .outcomes (c.outcomes s.fleet.instant)
  | .forceOpen service => s.operate scope service Circuit.forceOpen
  | .reset none => s.operate scope none Circuit.reset
  | .reset (some service) => s.resetService service
  | .check =>
    match s.target scope none with
    | none => (s, .inapplicable)
    | some (s, i) =>
      match s.fleet.perform i Circuit.check with
      | (f, none) => ({ s with fleet := f }, .inapplicable)
      | (f, some state) => ({ s with fleet := f }, .state state)
  | .config => s.read scope fun c => .config c.breaker.config
  | .name => s.read scope fun c => .text c.breaker.name
  | .debug =>
    match scope with
    | .circuit _ => s.read scope fun c => .text c.debugText
    | .registry => s.ask fun r => .text r.debugText
  | .allMetrics => s.ask fun r => .allMetrics (r.allMetrics s.fleet)
  | .resetAll => s.sweepAll Registry.resetAll
  | .names => s.ask fun r => .texts r.names
  | .remove service => s.removeService service
  | .configure service edits => s.configureService service edits
  | .breaker service => s.ask fun r => ((r.find? service).map s.describe).getD .nothing
  | .create service =>
    match s.target scope (some service) with
    | none => (s, .inapplicable)
    | some (s, i) => (s, s.describe i)
  | .hold service id => s.holdService scope service id
  | .on id step => s.runOn one id step
  | .same service id => (s, .truth (s.isSame service id))
  | .letGo id =>
    ({ s with holds := s.holds.filter (·.1 ≠ id) }, .truth (s.holds.lookup id).isSome)
  | .checkTransitions => s.sweepAll Registry.checkAll
  | .subscribe id =>
    ({ s with subscribers := put s.subscribers id s.fleet.channel.subscribe }, .nothing)
  | .receive id => s.receive id
  | .drain id => s.drain id
  | .unsubscribe id =>
    ({ s with subscribers := s.subscribers.filter (·.1 ≠ id) },
      .truth (s.subscribers.lookup id).isSome)
  | .sweeper period => s.addSweeper period
  | .sweepers => (s, .truths (s.sweepers.map (·.finished)))
  | .stopSweepers =>
    ({ s with sweepers := s.sweepers.map fun w => { w with finished := true } }, .nothing)
  | .shutdown => (s.shutDown, .nothing)

end Session

namespace Scenario

/-- Run a step whose nesting is at most `depth`, in a scenario about `home`. -/
def play (home : Session.Scope) : Nat → StepRunner α
  | 0 => fun _ s _ => (s, .inapplicable)
  | depth + 1 => Session.run (play home depth) home

/-- Run a scenario about `home` and report every step. -/
def playAll (home : Session.Scope) (s : Session) (steps : List (Step α)) : List (Report α) :=
  (s.runAll (play home (Step.listDepth steps)) home steps).2

theorem play_nil (home : Session.Scope) (s : Session) : playAll (α := α) home s [] = [] := rfl

theorem playAll_length (home : Session.Scope) (s : Session) (steps : List (Step α)) :
    (playAll home s steps).length = steps.length :=
  Session.runAll_length _ _ _ _

end Scenario

end FailFast
