import FailFast.Proofs.Run.Effects
import FailFast.Proofs.Run.Trials

/-!
# The verdict on a trial

A trial is judged on its last outcome, and on nothing but the outcomes accepted since it began.  The
window plays no part: it may be smaller than the trial, or forget outcomes while the trial lasts.
Neither do the permits: they may be handed back and granted again.  Before its last outcome a trial
ends only by hand or on its deadline.

Main results:

- Theorem `Run.Reachable.judged`: an outcome that counts in a trial is judged with all outcomes
  accepted before it.
- Theorem `Run.verdict_covers_trials`: when a trial ends and how.
-/

namespace FailFast

/-- The state in which a trial with these outcomes ends. -/
def Config.verdict (c : Config) (os : List Outcome) : State :=
  if c.breached (Counts.ofOutcomes c.slowMillis os) then .opened else .closed

namespace Run

/-! ## Outcomes in a trial -/

/-- In a trial an outcome that counts is judged with the counts of all outcomes accepted in it. -/
theorem Reachable.judged {config : Config} {r : Run} {trial : TrialPeriod} (hvalid : config.Valid)
    (hr : Reachable config r) (hphase : r.breaker.phase = .halfOpen trial) {a : Act} {o : Outcome}
    (haccepts : r.accepts? a = some o) :
    ∃ counted : TrialPeriod,
      counted.completed = r.history.period.length + 1 ∧
      counted.counts = Counts.ofOutcomes config.slowMillis (r.history.period ++ [o]) ∧
      counted.since = trial.since ∧
      (r.act a).breaker = ((r.breaker.recorded r.now o).judge counted r.now).breaker ∧
      (r.act a).history.transitions =
        ((r.breaker.recorded r.now o).judge counted r.now).transition.toList ++
          r.history.transitions := by
  have hbooks := (hr.balanced hvalid trial hphase).counted.count o
  have hjudge := Breaker.complete_halfOpen rfl hphase r.now o
  obtain ⟨hbreaker, mark, hhistory⟩ := hr.sound.act_accepted haccepts
  rw [hr.config_eq] at hjudge
  rw [hjudge] at hbreaker hhistory
  refine ⟨trial.count config.slowMillis o, ?_, hbooks.counts_eq, rfl, hbreaker, ?_⟩
  · rw [hbooks.completed, List.length_append]
    rfl
  · rw [hhistory]
    exact adopt_transitions _ _

/-- A breaker that recorded an outcome in a trial is still half open, under its old name. -/
theorem recorded_state {b : Breaker} {trial : TrialPeriod} (hphase : b.phase = .halfOpen trial)
    (now : Nat) (o : Outcome) : (b.recorded now o).state = .halfOpen := by
  have hstate : b.state = .halfOpen := Breaker.state_eq_halfOpen_iff.mpr ⟨trial, hphase⟩
  exact (b.recorded_alike now o).state.trans hstate

/-! ## The verdict -/

/-- The last outcome of a trial ends it by the verdict on all its outcomes. -/
theorem Reachable.last_outcome {config : Config} {r : Run} {trial : TrialPeriod}
    (hvalid : config.Valid) (hr : Reachable config r)
    (hphase : r.breaker.phase = .halfOpen trial) {a : Act} {o : Outcome}
    (haccepts : r.accepts? a = some o)
    (hlast : r.history.period.length + 1 = config.trialCalls) :
    (r.act a).history.transitions =
      ⟨r.breaker.name, .halfOpen, config.verdict (r.history.period ++ [o]), r.now⟩ ::
        r.history.transitions ∧
    (r.act a).breaker.state = config.verdict (r.history.period ++ [o]) ∧
    (config.verdict (r.history.period ++ [o]) = .closed → ∀ now,
      (r.act a).breaker.window.outcomes now = [] ∧
      (r.act a).breaker.window.counts now = .empty) := by
  obtain ⟨counted, hcompleted, hcounts, _, hbreaker, htold⟩ := hr.judged hvalid hphase haccepts
  have hconfig : (r.breaker.recorded r.now o).config = config := hr.config_eq
  have hstate := recorded_state hphase r.now o
  rcases (r.breaker.recorded r.now o).judge_cases counted r.now with
    ⟨_, hverdict⟩ | ⟨hmore, _⟩ | ⟨hmore, _⟩
  · rw [hconfig, hcounts] at hverdict
    rw [hverdict] at hbreaker htold
    unfold Config.verdict
    cases hbreached : config.breached
        (Counts.ofOutcomes config.slowMillis (r.history.period ++ [o])) with
    | true =>
        simp only [hbreached, if_true] at hbreaker htold ⊢
        refine ⟨?_, ?_, ?_⟩
        · rw [htold, Breaker.toOpen, Breaker.moveTo, hstate]
          rfl
        · rw [hbreaker]
          rfl
        · intro hclosed
          cases hclosed
    | false =>
        simp only [hbreached, Bool.false_eq_true, if_false] at hbreaker htold ⊢
        refine ⟨?_, ?_, ?_⟩
        · rw [htold, Breaker.toClosed, Breaker.moveTo, hstate]
          rfl
        · rw [hbreaker]
          rfl
        · intro _ now
          rw [hbreaker]
          exact ⟨Window.outcomes_clear now _, Window.counts_clear now _⟩
  · rw [hconfig] at hmore
    omega
  · rw [hconfig] at hmore
    omega

/-- Any other act goes on with the trial, unless it ends by hand or on its deadline. -/
theorem Reachable.before_last {config : Config} {r : Run} {trial : TrialPeriod}
    (hvalid : config.Valid) (hr : Reachable config r)
    (hphase : r.breaker.phase = .halfOpen trial) {a : Act}
    (hmore : ∀ o, r.accepts? a = some o → r.history.period.length + 1 < config.trialCalls) :
    ((r.act a).breaker.state = .halfOpen ∧
      (r.act a).breaker.generation = r.breaker.generation ∧
      (r.act a).history.period = r.history.period ++ (r.accepts? a).toList) ∨
    a = .forceOpen ∨ a = .reset ∨
    (Breaker.expired config trial r.now = true ∧ (r.act a).breaker.state = .opened) := by
  have hstate : r.breaker.state = .halfOpen :=
    Breaker.state_eq_halfOpen_iff.mpr ⟨trial, hphase⟩
  have hgoesOn : (r.act a).breaker.state = .halfOpen →
      (r.act a).breaker.generation = r.breaker.generation →
      (r.act a).breaker.state = .halfOpen ∧
        (r.act a).breaker.generation = r.breaker.generation ∧
        (r.act a).history.period = r.history.period ++ (r.accepts? a).toList :=
    fun hhalfOpen hsame => ⟨hhalfOpen, hsame, hr.sound.act_period hsame⟩
  cases hr.sound.act_effect a with
  | quiet hnone hbreaker =>
      exact Or.inl (hgoesOn (hbreaker.state.trans hstate) hbreaker.generation)
  | due hnone hbreaker =>
      have hchecked : r.breaker.check r.now =
          if Breaker.expired config trial r.now then r.breaker.toOpen r.now false
          else r.breaker.stays := by
        rw [← hr.config_eq]
        simp [Breaker.check, hphase]
      rw [hchecked] at hbreaker
      cases hdeadline : Breaker.expired config trial r.now with
      | true =>
          rw [hdeadline, if_pos rfl] at hbreaker
          exact Or.inr (Or.inr (Or.inr ⟨rfl, hbreaker.state⟩))
      | false =>
          rw [hdeadline, if_neg Bool.false_ne_true] at hbreaker
          exact Or.inl (hgoesOn (hbreaker.state.trans hstate) hbreaker.generation)
  | accepted mark o haccepts =>
      have hbefore := hmore o haccepts
      obtain ⟨counted, hcompleted, _, hsince, hbreaker, _⟩ := hr.judged hvalid hphase haccepts
      have hconfig : (r.breaker.recorded r.now o).config = config := hr.config_eq
      rcases (r.breaker.recorded r.now o).judge_cases counted r.now with
        ⟨hlast, _⟩ | ⟨_, hdeadline, hverdict⟩ | ⟨_, _, hverdict⟩
      · rw [hconfig] at hlast
        omega
      · rw [hconfig] at hdeadline
        refine Or.inr (Or.inr (Or.inr ⟨?_, ?_⟩))
        · unfold Breaker.expired at hdeadline ⊢
          rw [hsince] at hdeadline
          exact hdeadline
        · rw [hbreaker, hverdict]
          rfl
      · refine Or.inl (hgoesOn ?_ ?_)
        · rw [hbreaker, hverdict]
          exact recorded_state hphase r.now o
        · rw [hbreaker, hverdict]
          rfl
  | forced ha => exact Or.inr (Or.inl ha)
  | cleared ha => exact Or.inr (Or.inr (Or.inl ha))

/-- A trial has accepted fewer outcomes than configured.  The act that reports the last of them ends
it, open if a rate of exactly these outcomes reaches its threshold and else closed with an empty
window; any other act goes on with it, unless it is ended by hand or on its deadline. -/
theorem verdict_covers_trials {config : Config} {r : Run} {trial : TrialPeriod}
    (hvalid : config.Valid) (hr : Reachable config r)
    (hphase : r.breaker.phase = .halfOpen trial) (a : Act) :
    r.history.period.length < config.trialCalls ∧
    (∀ o, r.accepts? a = some o → r.history.period.length + 1 = config.trialCalls →
      (r.act a).history.transitions =
        ⟨r.breaker.name, .halfOpen, config.verdict (r.history.period ++ [o]), r.now⟩ ::
          r.history.transitions ∧
      (r.act a).breaker.state = config.verdict (r.history.period ++ [o]) ∧
      (config.verdict (r.history.period ++ [o]) = .closed → ∀ now,
        (r.act a).breaker.window.outcomes now = [] ∧
        (r.act a).breaker.window.counts now = .empty)) ∧
    ((∀ o, r.accepts? a = some o → r.history.period.length + 1 ≠ config.trialCalls) →
      ((r.act a).breaker.state = .halfOpen ∧
        (r.act a).breaker.generation = r.breaker.generation ∧
        (r.act a).history.period = r.history.period ++ (r.accepts? a).toList) ∨
      a = .forceOpen ∨ a = .reset ∨
      (Breaker.expired config trial r.now = true ∧ (r.act a).breaker.state = .opened)) := by
  have hbooks := hr.balanced hvalid trial hphase
  have hunfinished : r.history.period.length < config.trialCalls := by
    rw [← hbooks.counted.completed]
    exact hbooks.unfinished
  refine ⟨hunfinished, ?_, ?_⟩
  · intro o haccepts hlast
    exact hr.last_outcome hvalid hphase haccepts hlast
  · intro hother
    apply hr.before_last hvalid hphase
    intro o haccepts
    have hne := hother o haccepts
    omega

/-- Of two trial calls one failed, so the circuit opens again when the other reports success, though
the window holds no more than these two and a call of the closed period still runs. -/
theorem verdict_on_one_failure_of_two :
    ((probing.acts [.settle 0 .failed]).act (.settle 0 .succeeded)).breaker.state = .opened := by
  have hreachable := probing_reachable.acts [.settle 0 .failed]
  have hphase : (probing.acts [.settle 0 .failed]).breaker.phase = .halfOpen ⟨5, 0, 1, 1, 0⟩ := by
    decide +kernel
  have hverdict := (verdict_covers_trials Config.brief_valid hreachable hphase
    (.settle 0 .succeeded)).2.1 (.success 0 5) (by decide +kernel) (by decide +kernel)
  exact hverdict.2.1.trans (by decide +kernel)

end Run

end FailFast
