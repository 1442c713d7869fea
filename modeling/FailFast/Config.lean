import FailFast.Time.Jitter
import FailFast.Window

/-!
# Breaker configuration

A configuration fixes the thresholds, the window, the waits and the trial size of a breaker.  It is
plain data: `FailFast.Config.Validation` says which configurations are accepted.

Durations are compared in whole milliseconds, so the values a breaker really uses are named here.

Main results:

- `Config.agrees_standard`: the standard configuration agrees with itself.
- `Config.openMillis_of_not_jittered`: without jitter the open wait is the configured one.
- `Config.breached_iff`: a breach is a rate at or above its threshold.
-/

namespace FailFast

/-- What limits a sliding window. -/
inductive WindowKind where
  | countBased
  | timeBased
deriving DecidableEq, Inhabited

namespace WindowKind

/-- The name of a window kind in settings. -/
def name : WindowKind → String
  | countBased => "count-based"
  | timeBased => "time-based"

/-- The constructor-like name of a window kind in diagnostics. -/
def label : WindowKind → String
  | countBased => "CountBased"
  | timeBased => "TimeBased"

/-- The window kind with the given name. -/
def ofName? (s : String) : Option WindowKind :=
  if s = "count-based" then some countBased
  else if s = "time-based" then some timeBased
  else none

@[simp]
theorem ofName?_name (k : WindowKind) : ofName? k.name = some k := by
  cases k <;> rfl

end WindowKind

/-- The configuration of a breaker; rates are percentages. -/
structure Config where
  /-- The failure rate that opens the circuit. -/
  failureRate : Binary64
  /-- How many calls the window must hold before its rates count. -/
  minimumCalls : Nat
  windowKind : WindowKind
  /-- The window size, in calls or in seconds. -/
  windowSize : Nat
  /-- How long an open circuit rejects before it probes. -/
  openWait : Duration
  /-- How many trial calls a half-open circuit admits. -/
  trialCalls : Nat
  /-- How long a half-open circuit waits for its trial calls, if it does not wait for ever. -/
  trialWait : Option Duration
  /-- How long an asynchronous call may run, if it is limited. -/
  callTimeout : Option Duration
  /-- How long a call may run before it counts as slow. -/
  slowCall : Duration
  /-- The slow-call rate that opens the circuit. -/
  slowRate : Binary64
  /-- Whether a sweep may end the wait of an open circuit without a call. -/
  probesItself : Bool
  /-- The share of the open wait that is random. -/
  jitter : Binary64
deriving DecidableEq

namespace Config

/-- The standard configuration. -/
def standard : Config where
  failureRate := .ofNat 50
  minimumCalls := 10
  windowKind := .countBased
  windowSize := 10
  openWait := .ofMillis 60000
  trialCalls := 10
  trialWait := none
  callTimeout := none
  slowCall := .ofMillis 60000
  slowRate := .ofNat 100
  probesItself := false
  jitter := .zero

instance : Inhabited Config := ⟨standard⟩

/-- Equality of every entry, with numeric equality of rates. -/
def agrees (a b : Config) : Bool :=
  a.failureRate.same b.failureRate && a.minimumCalls == b.minimumCalls
    && a.windowKind == b.windowKind && a.windowSize == b.windowSize
    && a.openWait == b.openWait && a.trialCalls == b.trialCalls
    && a.trialWait == b.trialWait && a.callTimeout == b.callTimeout
    && a.slowCall == b.slowCall && a.slowRate.same b.slowRate
    && a.probesItself == b.probesItself && a.jitter.same b.jitter

/-- Whether the open wait is random. -/
def isJittered (c : Config) : Bool := Binary64.zero.lt c.jitter

/-- The open wait in milliseconds under a random draw, which counts for a jittered wait only. -/
def openMillis (c : Config) (draw : Draw) : Nat :=
  if c.isJittered then jittered c.openWait.millis c.jitter draw else c.openWait.millis

/-- The half-open wait in milliseconds. -/
def trialMillis (c : Config) : Option Nat := c.trialWait.map (·.millis)

/-- The slow-call threshold in milliseconds. -/
def slowMillis (c : Config) : Nat := c.slowCall.millis

/-- An empty window of the configured kind and size. -/
def window (c : Config) : Window :=
  match c.windowKind with
  | .countBased => .lastCalls (.empty c.windowSize c.slowMillis)
  | .timeBased => .lastMillis (.empty (mulClipped c.windowSize 1000) c.slowMillis)

/-- Whether either rate reaches its threshold. -/
def breached (c : Config) (counts : Counts) : Bool :=
  c.failureRate.le counts.failureRate || c.slowRate.le counts.slowRate

theorem openMillis_of_not_jittered {c : Config} (h : c.isJittered = false) (draw : Draw) :
    c.openMillis draw = c.openWait.millis := by
  simp [openMillis, h]

theorem breached_iff (c : Config) (counts : Counts) :
    c.breached counts = true ↔
      c.failureRate.le counts.failureRate = true ∨ c.slowRate.le counts.slowRate = true := by
  simp [breached]

@[simp]
theorem agrees_standard : standard.agrees standard = true := by decide +kernel

end Config

end FailFast
