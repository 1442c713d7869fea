import FailFast.Config
import FailFast.Number.Shortest

/-!
# Configurations in diagnostics

The diagnostic text of a configuration lists its entries by name.

Main results:

- `optionalText_none`: an entry that is not set is shown as such.
-/

namespace FailFast

/-- An optional duration. -/
def optionalText : Option Duration → String
  | none => "None"
  | some d => "Some(" ++ d.text ++ ")"

theorem optionalText_none : optionalText none = "None" := rfl

/-- A configuration with its entries by name. -/
def Config.debugText (c : Config) : String :=
  let entries := [
    ("failure_rate_threshold", c.failureRate.general),
    ("minimum_number_of_calls", Nat.repr c.minimumCalls),
    ("sliding_window_type", c.windowKind.label),
    ("sliding_window_size", Nat.repr c.windowSize),
    ("wait_duration_in_open_state", c.openWait.text),
    ("permitted_number_of_calls_in_half_open_state", Nat.repr c.trialCalls),
    ("max_wait_duration_in_half_open_state", optionalText c.trialWait),
    ("call_timeout", optionalText c.callTimeout),
    ("slow_call_duration_threshold", c.slowCall.text),
    ("slow_call_rate_threshold", c.slowRate.general),
    ("automatic_transition_from_open_to_half_open", toString c.probesItself),
    ("jitter_factor", c.jitter.general)]
  "Config \x7b " ++ String.intercalate ", " (entries.map fun e => e.1 ++ ": " ++ e.2) ++ " \x7d"

end FailFast
