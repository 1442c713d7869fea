import FailFast.Registry.Fleet
import FailFast.Config.Display
import FailFast.Settings

/-!
# The registry of services

A registry knows one circuit per service, made on first use from the override of that service or
from the standard configuration.  Removing or reconfiguring a service only forgets its circuit: the
next use makes a new one, while those who hold the old one go on with it.

Main results:

- `Registry.obtain_lookup`: the circuit obtained for a service is the one registered for it.
- `Registry.obtain_again`: obtaining a service twice gives the same circuit.
- `Registry.configFor_override`: a reconfigured service gets the new configuration.
-/

namespace FailFast

/-- How services are configured, and which circuits are registered for them. -/
structure Registry where
  standard : Config
  overrides : List (String × Config)
  classifier : Option Classifier
  listeners : Nat
  registered : List (String × Nat)
deriving Inhabited

namespace Registry

/-- A registry in which no service was used yet. -/
def start (standard : Config) (overrides : List (String × Config))
    (classifier : Option Classifier) (listeners : Nat) : Registry :=
  ⟨standard, overrides, classifier, listeners, []⟩

/-- Validate a standard configuration and overrides given as edits; later overrides win. -/
def build (standard : List ConfigEdit) (overrides : List (String × List ConfigEdit))
    (classifier : Option Classifier) (listeners : Nat) : Except ConfigError Registry := do
  let standard ← Config.standard.build standard
  let overrides ← overrides.mapM fun entry => do
    let config ← Config.standard.build entry.2
    return (entry.1, config)
  return start standard overrides.reverse classifier listeners

/-- The registry that settings describe. -/
def ofSettings (s : Settings) : Except ConfigError Registry := do
  let standard ← s.defaults.config
  let overrides ← s.serviceConfigs
  return start standard overrides none 0

/-- The configuration for new circuits of a service. -/
def configFor (r : Registry) (service : String) : Config :=
  (r.overrides.lookup service).getD r.standard

/-- The number of the circuit registered for a service. -/
def find? (r : Registry) (service : String) : Option Nat := r.registered.lookup service

/-- The callbacks of circuits made by the registry. -/
def callbacks (r : Registry) : Callbacks :=
  { Callbacks.listening r.listeners with publishes := true }

/-- A new circuit for a service. -/
def create (r : Registry) (service : String) (instant : Instant) : Circuit :=
  .fresh service (r.configFor service) r.callbacks r.classifier instant

/-- The circuit of a service, made if there is none. -/
def obtain (r : Registry) (f : Fleet) (service : String) : Registry × Fleet × Nat :=
  match r.find? service with
  | some i => (r, f, i)
  | none =>
    let i := f.circuits.length
    ({ r with registered := (service, i) :: r.registered },
      (f.note (.created service)).add (r.create service f.instant), i)

/-- Forget the circuit of a service; the answer is its number. -/
def remove (r : Registry) (service : String) : Registry × Option Nat :=
  ({ r with registered := r.registered.filter (·.1 ≠ service) }, r.find? service)

/-- Give a service a configuration of its own and forget its circuit. -/
def configure (r : Registry) (f : Fleet) (service : String) (config : Config) :
    Registry × Fleet :=
  let overridden := { r with overrides := (service, config) :: r.overrides }
  let (forgotten, old) := overridden.remove service
  (forgotten, if old.isSome then f.note (.reconfigured service) else f)

/-- The registered services with their circuits, in the order of their names. -/
def sorted (r : Registry) : List (String × Nat) := r.registered.mergeSort fun a b => a.1 ≤ b.1

/-- The names of the registered services, in order. -/
def names (r : Registry) : List String := r.sorted.map (·.1)

/-- The state of a service; one that was never used is closed. -/
def state (r : Registry) (f : Fleet) (service : String) : State :=
  (((r.find? service).bind (f.circuits[·]?)).map (·.breaker.state)).getD .closed

/-- The metrics of a service. -/
def metrics (r : Registry) (f : Fleet) (service : String) : Metrics :=
  ((r.find? service).bind f.metrics?).getD (.untouched service)

/-- The metrics of all registered services, in the order of their names. -/
def allMetrics (r : Registry) (f : Fleet) : List Metrics := r.sorted.filterMap (f.metrics? ·.2)

/-- Reset every registered circuit. -/
def resetAll (r : Registry) (f : Fleet) : Fleet :=
  r.sorted.foldl (fun f entry => f.change entry.2 Circuit.reset) f

/-- Apply the transitions due to every registered circuit that probes by itself. -/
def checkAll (r : Registry) (f : Fleet) : Fleet :=
  r.sorted.foldl (fun f entry =>
    match f.circuits[entry.2]? with
    | some c => if c.breaker.config.probesItself then (f.perform entry.2 Circuit.check).1 else f
    | none => f) f

/-- A registry in diagnostics. -/
def debugText (r : Registry) : String :=
  "CircuitBreakerManager \x7b services: [" ++ String.intercalate ", " (r.names.map Text.quoted)
    ++ "], default_config: " ++ r.standard.debugText ++ " \x7d"

theorem obtain_lookup (r : Registry) (f : Fleet) (service : String) :
    (r.obtain f service).1.find? service = some (r.obtain f service).2.2 := by
  simp only [obtain]
  split
  · assumption
  · simp [find?]

theorem obtain_of_find {r : Registry} {f : Fleet} {service : String} {i : Nat}
    (h : r.find? service = some i) : r.obtain f service = (r, f, i) := by
  simp [obtain, h]

theorem obtain_again (r : Registry) (f : Fleet) (service : String) :
    (r.obtain f service).1.obtain (r.obtain f service).2.1 service = r.obtain f service := by
  rw [obtain_of_find (r.obtain_lookup f service)]

theorem configFor_override (r : Registry) (f : Fleet) (service : String) (config : Config) :
    (r.configure f service config).1.configFor service = config := by
  simp [configure, remove, configFor]

end Registry

end FailFast
