import FailFast.Config.Validation

/-!
# Building a configuration

A configuration is built by applying edits, in order, to a starting point and validating the result.
Each edit sets what its name says; choosing a window sets its kind and size together.

Main results:

- `Config.build_nil`: without edits the starting point itself is validated.
- `Config.build_eq_ok`: a built configuration is valid and is the edited starting point.
-/

namespace FailFast

/-- One change to a configuration. -/
inductive ConfigEdit where
  | failureRate (percent : Binary64)
  | minimumCalls (calls : Nat)
  | countWindow (size : Nat)
  | timeWindow (seconds : Nat)
  | openWait (wait : Duration)
  | trialCalls (calls : Nat)
  | trialWait (wait : Duration)
  | callTimeout (timeout : Duration)
  | slowCall (threshold : Duration)
  | slowRate (percent : Binary64)
  | probesItself (enabled : Bool)
  | jitter (factor : Binary64)
deriving DecidableEq

namespace Config

/-- Apply one edit. -/
def edit (c : Config) : ConfigEdit → Config
  | .failureRate percent => { c with failureRate := percent }
  | .minimumCalls calls => { c with minimumCalls := calls }
  | .countWindow size => { c with windowKind := .countBased, windowSize := size }
  | .timeWindow seconds => { c with windowKind := .timeBased, windowSize := seconds }
  | .openWait wait => { c with openWait := wait }
  | .trialCalls calls => { c with trialCalls := calls }
  | .trialWait wait => { c with trialWait := some wait }
  | .callTimeout timeout => { c with callTimeout := some timeout }
  | .slowCall threshold => { c with slowCall := threshold }
  | .slowRate percent => { c with slowRate := percent }
  | .probesItself enabled => { c with probesItself := enabled }
  | .jitter factor => { c with jitter := factor }

/-- Apply edits in order and validate the result. -/
def build (start : Config) (edits : List ConfigEdit) : Except ConfigError Config :=
  (edits.foldl edit start).validated

@[simp]
theorem build_nil (start : Config) : start.build [] = start.validated := rfl

theorem build_eq_ok {start c : Config} {edits : List ConfigEdit} :
    start.build edits = .ok c ↔ c.Valid ∧ c = edits.foldl edit start := by
  simp only [build, validated_eq_ok]
  constructor
  · rintro ⟨h, rfl⟩
    exact ⟨h, rfl⟩
  · rintro ⟨h, rfl⟩
    exact ⟨h, rfl⟩

end Config

end FailFast
