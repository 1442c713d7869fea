import FailFast.Proofs.Run.Stale
import FailFast.Proofs.Run.Trials
import FailFast.Proofs.Window.Solvency

/-!
# Circuits whose counters never run short

A circuit keeps two sets of counters from which it subtracts: the tally of its window, and during a
trial the number of calls completed, of which the failures are taken to get the successes.  The
window of a circuit is only ever accessed by recording, clearing and reading, so its tally stays
exact whether or not the clock wraps.  The counters of a trial are those of the outcomes accepted in
it, so no more of them failed or were slow than were completed.

Main results:

- Theorem `TrialPeriod.Counted.solvent`: counters of a list of outcomes do not run short.
- Theorem `Run.Reachable.window_exact`: the tally of a circuit's window is exact in every run.
- Theorem `Run.counters_never_run_short`: no window, no circuit and no trial runs short.
-/

namespace FailFast

namespace TrialPeriod

/-- The counts of the trial outcomes, unless more failures than outcomes were counted. -/
def counts? (t : TrialPeriod) : Option Counts :=
  (t.completed.psub t.failures).map fun successes => ⟨t.completed, successes, t.failures, t.slow⟩

/-- The failures and the slow calls are some of the calls completed, a reading does not take a
counter below zero, and the calls counted are the successes and the failures. -/
structure Solvent (t : TrialPeriod) : Prop where
  failures : t.failures ≤ t.completed
  slow : t.slow ≤ t.completed
  read : t.counts? = some t.counts
  total : t.counts.total = t.counts.successes + t.counts.failures

/-- Counters of a list of outcomes do not run short. -/
theorem Counted.solvent {slowAt : Nat} {trial : TrialPeriod} {os : List Outcome}
    (h : trial.Counted slowAt os) : trial.Solvent := by
  have hfailures : trial.failures ≤ trial.completed := by
    rw [h.failures, h.completed]
    exact List.countP_le_length
  have hslow : trial.slow ≤ trial.completed := by
    rw [h.slow, h.completed]
    exact List.countP_le_length
  refine ⟨hfailures, hslow, ?_, (Nat.sub_add_cancel hfailures).symm⟩
  rw [counts?, Nat.psub_eq_sub hfailures]
  rfl

end TrialPeriod

/-- A new window holds nothing. -/
@[simp]
theorem Config.window_buffer (c : Config) : c.window.buffer = .empty := by
  unfold Config.window
  cases c.windowKind <;> rfl

/-- A new window takes the configured threshold for slow calls. -/
@[simp]
theorem Config.window_slowAt (c : Config) : c.window.slowAt = c.slowMillis := by
  unfold Config.window
  cases c.windowKind <;> rfl

namespace Run

/-- The tally of a circuit's window is exact in every run. -/
theorem Reachable.window_exact {config : Config} {r : Run} (hr : Reachable config r) :
    r.breaker.window.Exact :=
  hr.window_induction (Window.exact_of_empty config.window_buffer)
    (fun _ now o h => h.access (.record now o)) fun _ h => h.access .clear

/-- The window of a circuit keeps the configured threshold for slow calls. -/
theorem Reachable.window_slowAt {config : Config} {r : Run} (hr : Reachable config r) :
    r.breaker.window.slowAt = config.slowMillis :=
  hr.window_induction (P := fun w => w.slowAt = config.slowMillis) config.window_slowAt
    (fun w now o h => (w.access_slowAt (.record now o)).trans h)
    fun w h => (w.access_slowAt .clear).trans h

/-- Whatever is recorded, cleared and read on an empty window of any kind and size, with any
timestamps and at readings that may go back, no counter goes below zero, and the tally counts
exactly what is held.  The same holds of the window of a circuit from every point of every run on.
In every half-open state no more failures and no more slow calls are counted than calls, so taking
the failures from the calls does not go below zero, neither then nor when one more outcome was
counted and is to be judged; and the total is the successes and the failures together. -/
theorem counters_never_run_short :
    (∀ w : Window, w.buffer = .empty → w.Solvent) ∧
    ∀ (config : Config) (r : Run), Reachable config r →
      r.breaker.window.Solvent ∧ r.breaker.window.slowAt = config.slowMillis ∧
      ∀ trial, r.breaker.phase = .halfOpen trial →
        trial.Solvent ∧ ∀ o, (trial.count config.slowMillis o).Solvent := by
  constructor
  · intro w hempty
    exact (Window.exact_of_empty hempty).solvent
  · intro config r hr
    refine ⟨hr.window_exact.solvent, hr.window_slowAt, ?_⟩
    intro trial hphase
    have hcounted := hr.counted trial hphase
    exact ⟨hcounted.solvent, fun o => (hcounted.count o).solvent⟩

/-- A time window evicts one of three outcomes, the clock goes back, and in the end both others have
expired; and of a trial of two calls one timed out. -/
theorem counters_never_run_short_backwards :
    let w : Window := .lastMillis (.empty 60 100)
    let xs : List Window.Access := [.record 0 (.failure 200 0), .record 70 (.success 1 50),
      .counts 300, .record 10 (.timeout 7 40), .counts 105]
    let r := probing.act (.settle 0 .timedOut)
    w.buffer = .empty ∧
    w.accessAll? xs = some
      (.lastMillis ⟨60, 100, ⟨[.success 1 50, .timeout 7 40], ⟨1, 1, 1⟩⟩⟩) ∧
    (w.accessAll xs).counts? 110 = some ⟨0, 0, 0, 0⟩ ∧
    Reachable .brief r ∧ r.breaker.phase = .halfOpen ⟨5, 0, 1, 1, 1⟩ ∧
    TrialPeriod.counts? ⟨5, 0, 1, 1, 1⟩ = some ⟨1, 0, 1, 1⟩ := by
  intro w xs r
  have hreachable : Reachable .brief r := probing_reachable.acts [.settle 0 .timedOut]
  have hphase : r.breaker.phase = .halfOpen ⟨5, 0, 1, 1, 1⟩ := by decide +kernel
  rcases counters_never_run_short with ⟨hwindows, hruns⟩
  have hsolvent := hwindows w rfl
  rcases hruns .brief r hreachable with ⟨_, _, htrial⟩
  exact ⟨rfl, hsolvent.accessed xs, hsolvent.read xs 110, hreachable, hphase,
    (htrial _ hphase).1.read⟩

end Run

end FailFast
