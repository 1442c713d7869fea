import FailFast.Proofs.Run.Trials

/-!
# Conservation of trial permits

The number of permits left is a counter inside the breaker, while the permits granted are in the
hands of callers, who settle them, hand them back or keep them past the end of the trial.  Counter
and callers never disagree: in every half-open state the permits left, the live permits outside and
the completed calls add up to the configured number of trial calls.  Permits of earlier periods do
not enter the sum.  So a trial never runs or records more calls than configured, and it never runs
out of permits while nobody holds one.

Main results:

- Theorem `Run.trial_permits_conserved`: the sum, and what follows from it for callers.
-/

namespace FailFast

namespace Run

/-- In every half-open state of every run the permits left, the permits of the trial that callers
hold and the calls completed in it add up to the configured number of trial calls, and not all of
them are completed.  So the calls running and recorded are never more than that number, the permits
left are never more, and while no caller holds a permit of the trial the next attempt before the
deadline is granted. -/
theorem trial_permits_conserved {config : Config} {r : Run} {trial : TrialPeriod}
    (hvalid : config.Valid) (hr : Reachable config r) (hphase : r.breaker.phase = .halfOpen trial) :
    trial.permits + r.live + trial.completed = config.trialCalls ∧
    trial.completed < config.trialCalls ∧
    r.live + r.history.period.length ≤ config.trialCalls ∧
    trial.permits ≤ config.trialCalls ∧
    (r.live = 0 → Breaker.expired config trial r.now = false →
      (r.breaker.attempt r.now).2 = .granted r.breaker.generation) := by
  have hbooks := hr.balanced hvalid trial hphase
  have hsum := hbooks.permits
  have hunfinished := hbooks.unfinished
  have hcompleted := hbooks.counted.completed
  refine ⟨hsum, hunfinished, ?_, ?_, ?_⟩
  · omega
  · omega
  · intro hnone hdeadline
    have hleft : 0 < trial.permits := by
      omega
    rw [← hr.config_eq] at hdeadline
    exact Breaker.attempt_granted hphase hdeadline hleft

/-- Both permits of a trial are with callers, and a third call still runs that was admitted before
the circuit opened. -/
theorem trial_permits_all_held :
    probing.breaker.phase = .halfOpen ⟨5, 0, 0, 0, 0⟩ ∧ probing.tickets.length = 3 ∧
    probing.live = Config.brief.trialCalls := by
  have hphase : probing.breaker.phase = .halfOpen ⟨5, 0, 0, 0, 0⟩ := by
    decide +kernel
  have hconserved := trial_permits_conserved Config.brief_valid probing_reachable hphase
  refine ⟨hphase, by decide +kernel, ?_⟩
  simpa only [Nat.zero_add, Nat.add_zero] using hconserved.1

end Run

end FailFast
