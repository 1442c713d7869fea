import FailFast.Scenario
import FailFast.Scenario.WindowScript
import FailFast.Settings.Document
import FailFast.Proofs.Breaker
import FailFast.Proofs.Rates
import FailFast.Proofs.Number.Rounding
import FailFast.Proofs.Rates.Thresholds
import FailFast.Proofs.Run
import FailFast.Proofs.Run.Generations
import FailFast.Proofs.Run.Stale
import FailFast.Proofs.Run.Trials
import FailFast.Proofs.Run.Permits
import FailFast.Proofs.Run.Effects
import FailFast.Proofs.Run.Verdicts
import FailFast.Proofs.Run.Reference
import FailFast.Proofs.Run.Callbacks
import FailFast.Proofs.Chronicle
import FailFast.Proofs.Run.Deadline
import FailFast.Proofs.Run.Milliseconds
import FailFast.Proofs.Run.Failures
import FailFast.Proofs.Tables
import FailFast.Proofs.Usage
import FailFast.Proofs.Usage.Passive
import FailFast.Proofs.Usage.Prompt
import FailFast.Proofs.Usage.Calls
import FailFast.Proofs.Usage.OpenPeriod
import FailFast.Proofs.Usage.Events
import FailFast.Proofs.Usage.Reset
import FailFast.Proofs.Usage.Sweeping
import FailFast.Proofs.Usage.Changes
import FailFast.Proofs.Usage.Forced
import FailFast.Proofs.Usage.Executions
import FailFast.Proofs.Usage.Unwinding
import FailFast.Proofs.Usage.TrialHint
import FailFast.Proofs.Usage.UnusedPermits
import FailFast.Proofs.Settings
import FailFast.Proofs.Settings.Documents
import FailFast.Proofs.Management
import FailFast.Proofs.Management.Sessions
import FailFast.Proofs.Management.Changes
import FailFast.Proofs.Management.Errands
import FailFast.Proofs.Management.Crowd
import FailFast.Proofs.Management.Subscribers
import FailFast.Proofs.Management.Incarnations
import FailFast.Proofs.Management.Shares
import FailFast.Proofs.Management.Isolation
import FailFast.Proofs.Management.Described
import FailFast.Proofs.Window.Script
import FailFast.Proofs.Window.Solvency
import FailFast.Proofs.Run.Solvency
