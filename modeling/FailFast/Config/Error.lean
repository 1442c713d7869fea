import FailFast.Time.Duration
import FailFast.Number.Shortest

/-!
# Configuration errors

Why a configuration or a settings document is refused, with the text shown for it.  Values are never
adjusted to fit.

Main results:

- `ConfigError.message_nonPositive`: the text for an entry that must be greater than zero.
-/

namespace FailFast

/-- A reason to refuse a configuration. -/
inductive ConfigError where
  | thresholdOutOfRange (field : String) (value : Binary64)
  | nonPositive (field : String)
  | minimumExceedsWindow (minimum window : Nat)
  | jitterOutOfRange (value : Binary64)
  | malformed (detail : String)
deriving DecidableEq, Inhabited

/-- The text shown for a configuration error. -/
def ConfigError.message : ConfigError → String
  | thresholdOutOfRange field value => field ++ " must be within [0, 100], got " ++ value.plain
  | nonPositive field => field ++ " must be greater than zero"
  | minimumExceedsWindow minimum window =>
    "minimum_number_of_calls (" ++ Nat.repr minimum ++ ") exceeds the count window size ("
      ++ Nat.repr window ++ "), the circuit could never open"
  | jitterOutOfRange value => "jitter_factor must be within [0, 1], got " ++ value.plain
  | malformed detail => "invalid breaker settings: " ++ detail

theorem ConfigError.message_nonPositive (field : String) :
    (ConfigError.nonPositive field).message = field ++ " must be greater than zero" := rfl

end FailFast
