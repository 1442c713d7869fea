import FailFast.Config
import FailFast.Config.Error

/-!
# Accepted configurations

`Config.check` names the first fault of a configuration, in a fixed order of its entries, and
`Config.Valid` says what a configuration without faults satisfies.

Main results:

- `Config.check_isOk_iff`: a configuration passes the check exactly when it is valid.
- `Config.standard_valid`: the standard configuration is valid.
-/

namespace FailFast

/-- A percentage lies between 0 and 100; no threshold is `nan`. -/
def checkPercentage (field : String) (value : Binary64) : Except ConfigError Unit :=
  if Binary64.zero.within value (.ofNat 100) then .ok ()
  else .error (.thresholdOutOfRange field value)

/-- A count is positive. -/
def checkCount (field : String) (value : Nat) : Except ConfigError Unit :=
  if 0 < value then .ok () else .error (.nonPositive field)

/-- A duration is positive. -/
def checkDuration (field : String) (value : Duration) : Except ConfigError Unit :=
  if 0 < value.nanos then .ok () else .error (.nonPositive field)

/-- An optional duration is positive when set. -/
def checkLimit (field : String) (value : Option Duration) : Except ConfigError Unit :=
  match value with
  | none => .ok ()
  | some d => checkDuration field d

namespace Config

/-- A count window can hold the minimum number of calls. -/
def checkMinimum (c : Config) : Except ConfigError Unit :=
  if c.windowKind = .countBased ∧ c.windowSize < c.minimumCalls then
    .error (.minimumExceedsWindow c.minimumCalls c.windowSize)
  else .ok ()

/-- The jitter is a share between 0 and 1. -/
def checkJitter (c : Config) : Except ConfigError Unit :=
  if Binary64.zero.within c.jitter (.ofNat 1) then .ok () else .error (.jitterOutOfRange c.jitter)

/-- The first fault of a configuration. -/
def check (c : Config) : Except ConfigError Unit := do
  checkPercentage "failure_rate_threshold" c.failureRate
  checkPercentage "slow_call_rate_threshold" c.slowRate
  checkCount "minimum_number_of_calls" c.minimumCalls
  checkCount "sliding_window_size" c.windowSize
  checkCount "permitted_number_of_calls_in_half_open_state" c.trialCalls
  checkDuration "wait_duration_in_open_state" c.openWait
  checkDuration "slow_call_duration_threshold" c.slowCall
  c.checkMinimum
  checkLimit "max_wait_duration_in_half_open_state" c.trialWait
  checkLimit "call_timeout" c.callTimeout
  c.checkJitter

/-- What holds of every accepted configuration. -/
structure Valid (c : Config) : Prop where
  failureRate : Binary64.zero.within c.failureRate (.ofNat 100) = true
  slowRate : Binary64.zero.within c.slowRate (.ofNat 100) = true
  minimumCalls : 0 < c.minimumCalls
  windowSize : 0 < c.windowSize
  trialCalls : 0 < c.trialCalls
  openWait : 0 < c.openWait.nanos
  slowCall : 0 < c.slowCall.nanos
  minimumFits : c.windowKind = .countBased → c.minimumCalls ≤ c.windowSize
  trialWait : ∀ d, c.trialWait = some d → 0 < d.nanos
  callTimeout : ∀ d, c.callTimeout = some d → 0 < d.nanos
  jitter : Binary64.zero.within c.jitter (.ofNat 1) = true

/-- Accept a configuration or name its first fault. -/
def validated (c : Config) : Except ConfigError Config := do
  c.check
  return c

end Config

@[simp]
theorem checkPercentage_eq_ok {field : String} {value : Binary64} :
    checkPercentage field value = .ok () ↔ Binary64.zero.within value (.ofNat 100) = true := by
  simp only [checkPercentage]
  split <;> simp_all

@[simp]
theorem checkCount_eq_ok {field : String} {value : Nat} :
    checkCount field value = .ok () ↔ 0 < value := by
  simp only [checkCount]
  split <;> simp_all

@[simp]
theorem checkDuration_eq_ok {field : String} {value : Duration} :
    checkDuration field value = .ok () ↔ 0 < value.nanos := by
  simp only [checkDuration]
  split <;> simp_all

@[simp]
theorem checkLimit_eq_ok {field : String} {value : Option Duration} :
    checkLimit field value = .ok () ↔ ∀ d, value = some d → 0 < d.nanos := by
  cases value <;> simp [checkLimit]

/-- A sequence of checks passes when each of them does. -/
theorem check_bind_eq_ok {first : Except ConfigError Unit} {rest : Except ConfigError Unit} :
    (do first; rest) = .ok () ↔ first = .ok () ∧ rest = .ok () := by
  cases first <;> simp [bind, Except.bind]

namespace Config

@[simp]
theorem checkMinimum_eq_ok {c : Config} :
    c.checkMinimum = .ok () ↔ (c.windowKind = .countBased → c.minimumCalls ≤ c.windowSize) := by
  simp only [checkMinimum]
  split <;> simp_all

@[simp]
theorem checkJitter_eq_ok {c : Config} :
    c.checkJitter = .ok () ↔ Binary64.zero.within c.jitter (.ofNat 1) = true := by
  simp only [checkJitter]
  split <;> simp_all

theorem check_isOk_iff {c : Config} : c.check = .ok () ↔ c.Valid := by
  simp only [check, check_bind_eq_ok, checkPercentage_eq_ok, checkCount_eq_ok,
    checkDuration_eq_ok, checkLimit_eq_ok, checkMinimum_eq_ok, checkJitter_eq_ok]
  constructor
  · rintro ⟨h1, h2, h3, h4, h5, h6, h7, h8, h9, h10, h11⟩
    exact ⟨h1, h2, h3, h4, h5, h6, h7, h8, h9, h10, h11⟩
  · rintro ⟨h1, h2, h3, h4, h5, h6, h7, h8, h9, h10, h11⟩
    exact ⟨h1, h2, h3, h4, h5, h6, h7, h8, h9, h10, h11⟩

theorem validated_eq_ok {c d : Config} : c.validated = .ok d ↔ c.Valid ∧ d = c := by
  rw [← check_isOk_iff]
  simp only [validated]
  cases h : c.check <;> simp [bind, Except.bind, pure, Except.pure, eq_comm]

theorem standard_valid : standard.Valid where
  failureRate := by decide +kernel
  slowRate := by decide +kernel
  minimumCalls := by decide
  windowSize := by decide
  trialCalls := by decide
  openWait := by decide
  slowCall := by decide
  minimumFits := fun _ => by decide
  trialWait := by simp [standard]
  callTimeout := by simp [standard]
  jitter := by decide +kernel

end Config

end FailFast
