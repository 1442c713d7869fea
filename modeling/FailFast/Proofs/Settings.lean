import FailFast.Settings

/-!
# The entries of settings

Settings have twelve entries, and so have the configurations that they describe and the tables of
services, which may leave entries out.  Here an entry is known by a key, so that what holds of each
of them, independently of the others, is said once.

Main results:

- Theorem `ServiceSettings.get_withDefaults`: each entry of a service is its own value if it has one
  and that of the defaults otherwise.
- Theorem `BreakerSettings.get_describes`: the described configuration has the same entries, and its
  durations have the milliseconds that were given.
-/

namespace FailFast

/-- The entries of settings. -/
inductive Key where
  | failureRate
  | minimumCalls
  | windowKind
  | windowSize
  | openWait
  | trialCalls
  | trialWait
  | callTimeout
  | slowCall
  | slowRate
  | probesItself
  | jitter
deriving DecidableEq

/-- What stands in an entry; a duration is given in milliseconds. -/
abbrev Key.Value : Key → Type
  | failureRate => Binary64
  | minimumCalls => Nat
  | windowKind => WindowKind
  | windowSize => Nat
  | openWait => Nat
  | trialCalls => Nat
  | trialWait => Nat
  | callTimeout => Nat
  | slowCall => Nat
  | slowRate => Binary64
  | probesItself => Bool
  | jitter => Binary64

/-- An entry of a configuration; durations are read in milliseconds. -/
def Config.get (c : Config) : (k : Key) → Option k.Value
  | .failureRate => some c.failureRate
  | .minimumCalls => some c.minimumCalls
  | .windowKind => some c.windowKind
  | .windowSize => some c.windowSize
  | .openWait => some c.openWait.millis
  | .trialCalls => some c.trialCalls
  | .trialWait => c.trialWait.map (·.millis)
  | .callTimeout => c.callTimeout.map (·.millis)
  | .slowCall => some c.slowCall.millis
  | .slowRate => some c.slowRate
  | .probesItself => some c.probesItself
  | .jitter => some c.jitter

/-- An entry of settings; two of them may be missing. -/
def BreakerSettings.get (s : BreakerSettings) : (k : Key) → Option k.Value
  | .failureRate => some s.failureRate
  | .minimumCalls => some s.minimumCalls
  | .windowKind => some s.windowKind
  | .windowSize => some s.windowSize
  | .openWait => some s.openWait
  | .trialCalls => some s.trialCalls
  | .trialWait => s.trialWait
  | .callTimeout => s.callTimeout
  | .slowCall => some s.slowCall
  | .slowRate => some s.slowRate
  | .probesItself => some s.probesItself
  | .jitter => some s.jitter

/-- An entry of a service, if the service sets it. -/
def ServiceSettings.get (s : ServiceSettings) : (k : Key) → Option k.Value
  | .failureRate => s.failureRate
  | .minimumCalls => s.minimumCalls
  | .windowKind => s.windowKind
  | .windowSize => s.windowSize
  | .openWait => s.openWait
  | .trialCalls => s.trialCalls
  | .trialWait => s.trialWait
  | .callTimeout => s.callTimeout
  | .slowCall => s.slowCall
  | .slowRate => s.slowRate
  | .probesItself => s.probesItself
  | .jitter => s.jitter

/-- A service that sets nothing has no entries. -/
@[simp]
theorem ServiceSettings.get_unset (k : Key) : unset.get k = none := by
  cases k <;> rfl

/-- Tables with the same entries are the same. -/
theorem ServiceSettings.ext_get {s t : ServiceSettings} (h : ∀ k, s.get k = t.get k) : s = t := by
  cases s
  cases t
  rw [ServiceSettings.mk.injEq]
  exact ⟨h .failureRate, h .minimumCalls, h .windowKind, h .windowSize, h .openWait, h .trialCalls,
    h .trialWait, h .callTimeout, h .slowCall, h .slowRate, h .probesItself, h .jitter⟩

/-- Each entry of a service is the one that it sets, and the default where it sets none. -/
theorem ServiceSettings.get_withDefaults (s : ServiceSettings) (defaults : BreakerSettings)
    (k : Key) : (s.withDefaults defaults).get k = (s.get k).or (defaults.get k) := by
  have hset : ∀ {α : Type} (own : Option α) (default : α),
      some (own.getD default) = own.or (some default) := by
    intro α own default
    cases own <;> rfl
  cases k with
  | trialWait => rfl
  | callTimeout => rfl
  | _ => exact hset _ _

/-! ## Durations -/

/-- A value that can stand in an entry: the milliseconds of a duration are a word. -/
def Key.Fits : (k : Key) → k.Value → Prop
  | .openWait, ms => ms < wordCount
  | .trialWait, ms => ms < wordCount
  | .callTimeout, ms => ms < wordCount
  | .slowCall, ms => ms < wordCount
  | _, _ => True

/-- The entries of the settings fit. -/
def BreakerSettings.Fits (s : BreakerSettings) : Prop := ∀ k v, s.get k = some v → k.Fits v

/-- The entries that a service sets fit. -/
def ServiceSettings.Fits (s : ServiceSettings) : Prop := ∀ k v, s.get k = some v → k.Fits v

/-- The entries of all settings fit. -/
structure Settings.Fits (s : Settings) : Prop where
  defaults : s.defaults.Fits
  services : ∀ entry ∈ s.services, entry.2.Fits

/-- So do those of a service with the defaults. -/
theorem ServiceSettings.Fits.withDefaults {s : ServiceSettings} {defaults : BreakerSettings}
    (hs : s.Fits) (hdefaults : defaults.Fits) : (s.withDefaults defaults).Fits := by
  intro k v hv
  rw [get_withDefaults, Option.or_eq_some_iff] at hv
  rcases hv with hown | ⟨_, hdefault⟩
  · exact hs k v hown
  · exact hdefaults k v hdefault

/-- The described configuration has the entries of the settings, and each of its durations is as
many milliseconds as were given. -/
theorem BreakerSettings.get_describes {s : BreakerSettings} (h : s.Fits) (k : Key) :
    s.describes.get k = s.get k := by
  have hlimit : ∀ limit : Option Nat, (∀ ms, limit = some ms → ms < wordCount) →
      (limit.map Duration.ofMillis).map (·.millis) = limit := by
    intro limit hfits
    cases limit with
    | none => rfl
    | some ms => exact congrArg some (Duration.millis_ofMillis (hfits ms rfl))
  cases k with
  | openWait => exact congrArg some (Duration.millis_ofMillis (h .openWait s.openWait rfl))
  | slowCall => exact congrArg some (Duration.millis_ofMillis (h .slowCall s.slowCall rfl))
  | trialWait => exact hlimit s.trialWait (h .trialWait)
  | callTimeout => exact hlimit s.callTimeout (h .callTimeout)
  | _ => rfl

end FailFast
