import FailFast.Config.Edit

/-!
# Settings

Settings are what a document says about breakers before validation: a complete set of defaults and,
for each listed service, the entries in which it differs.  Durations are whole milliseconds.

Main results:

- `ServiceSettings.withDefaults_unset`: a service that sets nothing has the defaults.
- `Settings.effective?_eq_none_iff`: exactly the listed services have settings of their own.
-/

namespace FailFast

/-- Complete settings of one breaker. -/
structure BreakerSettings where
  failureRate : Binary64
  minimumCalls : Nat
  windowKind : WindowKind
  windowSize : Nat
  openWait : Nat
  trialCalls : Nat
  trialWait : Option Nat
  callTimeout : Option Nat
  slowCall : Nat
  slowRate : Binary64
  probesItself : Bool
  jitter : Binary64
deriving DecidableEq

namespace BreakerSettings

/-- The settings that describe the standard configuration. -/
def standard : BreakerSettings where
  failureRate := Config.standard.failureRate
  minimumCalls := Config.standard.minimumCalls
  windowKind := Config.standard.windowKind
  windowSize := Config.standard.windowSize
  openWait := Config.standard.openWait.millis
  trialCalls := Config.standard.trialCalls
  trialWait := none
  callTimeout := none
  slowCall := Config.standard.slowCall.millis
  slowRate := Config.standard.slowRate
  probesItself := Config.standard.probesItself
  jitter := Config.standard.jitter

instance : Inhabited BreakerSettings := ⟨standard⟩

/-- The configuration that settings describe, not yet validated. -/
def describes (s : BreakerSettings) : Config where
  failureRate := s.failureRate
  minimumCalls := s.minimumCalls
  windowKind := s.windowKind
  windowSize := s.windowSize
  openWait := .ofMillis s.openWait
  trialCalls := s.trialCalls
  trialWait := s.trialWait.map .ofMillis
  callTimeout := s.callTimeout.map .ofMillis
  slowCall := .ofMillis s.slowCall
  slowRate := s.slowRate
  probesItself := s.probesItself
  jitter := s.jitter

/-- The validated configuration. -/
def config (s : BreakerSettings) : Except ConfigError Config := s.describes.validated

/-- Equality of every entry, with numeric equality of rates. -/
def agrees (a b : BreakerSettings) : Bool :=
  a.failureRate.same b.failureRate && a.minimumCalls == b.minimumCalls
    && a.windowKind == b.windowKind && a.windowSize == b.windowSize
    && a.openWait == b.openWait && a.trialCalls == b.trialCalls
    && a.trialWait == b.trialWait && a.callTimeout == b.callTimeout
    && a.slowCall == b.slowCall && a.slowRate.same b.slowRate
    && a.probesItself == b.probesItself && a.jitter.same b.jitter

end BreakerSettings

/-! ## Services -/

/-- The entries in which a service differs from the defaults. -/
structure ServiceSettings where
  failureRate : Option Binary64
  minimumCalls : Option Nat
  windowKind : Option WindowKind
  windowSize : Option Nat
  openWait : Option Nat
  trialCalls : Option Nat
  trialWait : Option Nat
  callTimeout : Option Nat
  slowCall : Option Nat
  slowRate : Option Binary64
  probesItself : Option Bool
  jitter : Option Binary64
deriving DecidableEq, Inhabited

namespace ServiceSettings

/-- A service that differs in nothing. -/
def unset : ServiceSettings :=
  ⟨none, none, none, none, none, none, none, none, none, none, none, none⟩

/-- The settings of a service: its own entries, and the defaults where it sets none. -/
def withDefaults (s : ServiceSettings) (defaults : BreakerSettings) : BreakerSettings where
  failureRate := s.failureRate.getD defaults.failureRate
  minimumCalls := s.minimumCalls.getD defaults.minimumCalls
  windowKind := s.windowKind.getD defaults.windowKind
  windowSize := s.windowSize.getD defaults.windowSize
  openWait := s.openWait.getD defaults.openWait
  trialCalls := s.trialCalls.getD defaults.trialCalls
  trialWait := s.trialWait.or defaults.trialWait
  callTimeout := s.callTimeout.or defaults.callTimeout
  slowCall := s.slowCall.getD defaults.slowCall
  slowRate := s.slowRate.getD defaults.slowRate
  probesItself := s.probesItself.getD defaults.probesItself
  jitter := s.jitter.getD defaults.jitter

@[simp]
theorem withDefaults_unset (defaults : BreakerSettings) :
    unset.withDefaults defaults = defaults := rfl

end ServiceSettings

/-- Defaults and the services that differ from them. -/
structure Settings where
  defaults : BreakerSettings
  services : List (String × ServiceSettings)
deriving DecidableEq

namespace Settings

/-- The standard settings, with no service listed. -/
def standard : Settings := ⟨.standard, []⟩

instance : Inhabited Settings := ⟨standard⟩

/-- The settings of a listed service, defaults included. -/
def effective? (s : Settings) (service : String) : Option BreakerSettings :=
  (s.services.lookup service).map (·.withDefaults s.defaults)

/-- The configurations of all listed services, or the first error among them. -/
def serviceConfigs (s : Settings) : Except ConfigError (List (String × Config)) :=
  s.services.mapM fun entry => do
    let config ← (entry.2.withDefaults s.defaults).config
    return (entry.1, config)

/-- Whether settings are the standard ones. -/
def isStandard (s : Settings) : Bool := s.defaults.agrees .standard && s.services.isEmpty

theorem effective?_eq_none_iff (s : Settings) (service : String) :
    s.effective? service = none ↔ s.services.lookup service = none := by
  simp [effective?]

end Settings

end FailFast
