import FailFast.Proofs.Run.Verdicts

/-!
# The deadline of a trial

A trial may have a deadline.  Nothing watches it: whoever first attempts a call, applies the
transitions due or reports an outcome that counts finds that it has passed.  An attempt or a check
then opens the circuit again, and a report does so unless it is the last one of the trial, which is
judged.  Until the deadline, and for ever if there is none, no trial ends by the passing of time.

The deadline is a number of milliseconds after the trial began.  What is done with permits in the
meantime, live or stale, does not move it, and the next trial has a deadline of its own.

Main results:

- Theorem `Run.Sound.trial_begins` and theorem `Run.Sound.trial_lasts`: a trial remembers the
  reading of the act that began it, as long as it lasts.
- Theorem `Run.trial_ends_at_deadline`: what becomes of a trial at its deadline and before it.
-/

namespace FailFast

/-- One act within a trial does not move its beginning. -/
theorem TrialPeriod.Goes.since_eq {config : Config} {trial next : TrialPeriod} {live after : Nat}
    {os seen : List Outcome} (h : trial.Goes config live os next after seen) :
    next.since = trial.since := by
  cases h <;> rfl

/-- A trial is over time when it has a limit and has lasted as long. -/
theorem Breaker.expired_iff {config : Config} {trial : TrialPeriod} {now : Nat} :
    expired config trial now = true ↔
      ∃ limit, config.trialMillis = some limit ∧ limit ≤ now - trial.since := by
  unfold expired
  cases config.trialMillis <;> simp

namespace Run

/-! ## The beginning of a trial -/

/-- A circuit is half open before each of several acts and after the last of them. -/
def StaysHalfOpen (r : Run) : List Act → Prop
  | [] => r.breaker.state = .halfOpen
  | a :: rest => r.breaker.state = .halfOpen ∧ (r.act a).StaysHalfOpen rest

instance decidableStaysHalfOpen : ∀ (r : Run) (as : List Act), Decidable (r.StaysHalfOpen as)
  | r, [] => inferInstanceAs (Decidable (r.breaker.state = .halfOpen))
  | r, a :: rest =>
    have := decidableStaysHalfOpen (r.act a) rest
    inferInstanceAs (Decidable (r.breaker.state = .halfOpen ∧ (r.act a).StaysHalfOpen rest))

section Trial

variable {r : Run}

/-- So it is before all of them. -/
theorem StaysHalfOpen.now {as : List Act} (h : r.StaysHalfOpen as) :
    r.breaker.state = .halfOpen := by
  cases as with
  | nil => exact h
  | cons a rest => exact h.1

/-- An act that makes the circuit half open begins a trial at its reading. -/
theorem Sound.trial_begins (hr : Sound r) (hbefore : r.breaker.state ≠ .halfOpen) {a : Act}
    {trial : TrialPeriod} (hphase : (r.act a).breaker.phase = .halfOpen trial) :
    trial.since = r.now := by
  rcases hr.act_halfOpen hphase with ⟨old, hold, _⟩ | ⟨_, hgoes⟩
  · exact absurd (Breaker.state_eq_halfOpen_iff.mpr ⟨old, hold⟩) hbefore
  · exact hgoes.since_eq

/-- While the circuit stays half open it is in the same trial. -/
theorem Sound.trial_lasts (hr : Sound r) {as : List Act} (hstays : r.StaysHalfOpen as)
    {trial : TrialPeriod} (hphase : r.breaker.phase = .halfOpen trial) :
    ∃ next, (r.acts as).breaker.phase = .halfOpen next ∧ next.since = trial.since := by
  induction as generalizing r trial with
  | nil => exact ⟨trial, hphase, rfl⟩
  | cons a rest ih =>
      rcases Breaker.state_eq_halfOpen_iff.mp hstays.2.now with ⟨next, hnext⟩
      rcases ih (hr.act a) hstays.2 hnext with ⟨last, hlast, hsince⟩
      refine ⟨last, hlast, hsince.trans ?_⟩
      rcases hr.act_halfOpen hnext with ⟨old, hold, _, hgoes⟩ | ⟨hopened, _⟩
      · rw [hphase] at hold
        cases hold
        exact hgoes.since_eq
      · rw [hstays.1] at hopened
        cases hopened

/-- Until the clock wraps, a trial began no later than now. -/
theorem Reachable.since_le {config : Config} (hr : Reachable config r) (hclock : r.Unwrapped)
    {trial : TrialPeriod} (hphase : r.breaker.phase = .halfOpen trial) : trial.since ≤ r.now := by
  refine hr.induction (P := fun r => r.Unwrapped → ∀ trial, r.breaker.phase = .halfOpen trial →
    trial.since ≤ r.now) ?_ ?_ hclock trial hphase
  · intro name draws instant _ trial hphase
    cases hphase
  · intro r a hr ih hclock trial hphase
    have hlater : r.now ≤ (r.act a).now := hclock.now_le
    rcases hr.sound.act_halfOpen hphase with ⟨old, hold, _, hgoes⟩ | ⟨_, hgoes⟩
    · rw [hgoes.since_eq]
      exact Nat.le_trans (ih hclock.before old hold) hlater
    · rw [hgoes.since_eq]
      exact hlater

end Trial

/-! ## At the deadline -/

/-- An act opens a half-open circuit again: an open period begins with the whole configured wait,
and the transition is told. -/
structure Reopens (r : Run) (a : Act) : Prop where
  phase : (r.act a).breaker.phase =
    .opened ⟨r.now, r.breaker.config.openMillis (r.breaker.draws r.breaker.generation), false⟩
  told : (r.act a).history.transitions =
    ⟨r.breaker.name, .halfOpen, .opened, r.now⟩ :: r.history.transitions

/-- The first attempt, check or outcome that counts ends the trial.  An attempt is refused by the
open circuit, and only the last outcome of the trial is still judged. -/
structure Overdue (r : Run) : Prop where
  refused : (r.breaker.attempt r.now).2 = .rejected .opened
    (.ofMillis (r.breaker.config.openMillis (r.breaker.draws r.breaker.generation)))
  attempt : r.Reopens .attempt
  check : r.Reopens .check
  report : ∀ a o, r.accepts? a = some o →
    r.history.period.length + 1 ≠ r.breaker.config.trialCalls → r.Reopens a
  last : ∀ a o, r.accepts? a = some o →
    r.history.period.length + 1 = r.breaker.config.trialCalls →
    (r.act a).breaker.state = r.breaker.config.verdict (r.history.period ++ [o])

/-- No act ends the trial but the last outcome of it, a forced opening and a reset. -/
def Unhurried (r : Run) : Prop :=
  ∀ a, a ≠ .forceOpen → a ≠ .reset →
    (∀ o, r.accepts? a = some o → r.history.period.length + 1 ≠ r.breaker.config.trialCalls) →
    (r.act a).breaker.state = .halfOpen ∧
      (r.act a).breaker.generation = r.breaker.generation

section Deadline

variable {config : Config} {r : Run} {trial : TrialPeriod} (hvalid : config.Valid)
  (hr : Reachable config r) (hphase : r.breaker.phase = .halfOpen trial)

include hvalid hr hphase

/-- An outcome that counts opens the circuit at the deadline, unless it is the last one. -/
theorem Reachable.reopens_on_report (hdeadline : Breaker.expired config trial r.now = true) {a : Act}
    {o : Outcome} (haccepts : r.accepts? a = some o)
    (hmore : r.history.period.length + 1 ≠ config.trialCalls) : r.Reopens a := by
  rcases hr.judged hvalid hphase haccepts with ⟨counted, hcompleted, _, hsince, hbreaker, htold⟩
  have hunfinished := (hr.balanced hvalid trial hphase).unfinished
  have hcounted := (hr.balanced hvalid trial hphase).counted.completed
  have hconfig : (r.breaker.recorded r.now o).config = config := hr.config_eq
  have hjudged : (r.breaker.recorded r.now o).judge counted r.now =
      (r.breaker.recorded r.now o).toOpen r.now false := by
    rcases (r.breaker.recorded r.now o).judge_cases counted r.now with
      ⟨hlast, _⟩ | ⟨_, _, hopens⟩ | ⟨_, hintime, _⟩
    · rw [hconfig] at hlast
      omega
    · exact hopens
    · rw [hconfig] at hintime
      unfold Breaker.expired at hdeadline hintime
      rw [hsince, hdeadline] at hintime
      cases hintime
  rw [hjudged] at hbreaker htold
  constructor
  · rw [hbreaker]
    rfl
  · rw [htold, Breaker.toOpen, Breaker.moveTo, recorded_state hphase]
    rfl

/-- At its deadline a trial is over. -/
theorem Reachable.overdue (hdeadline : Breaker.expired config trial r.now = true) : r.Overdue := by
  have hconfig := hr.config_eq
  have hstate := Breaker.state_eq_halfOpen_iff.mpr ⟨trial, hphase⟩
  have hlate : Breaker.expired r.breaker.config trial r.now = true := by
    rw [hconfig]
    exact hdeadline
  have hchecked := Breaker.check_expired hphase hlate
  have hattempt := Breaker.attempt_expired hphase hlate
  have hopened : (r.breaker.toOpen r.now false).transition.toList =
      [⟨r.breaker.name, .halfOpen, .opened, r.now⟩] := by
    simp [Breaker.toOpen, Breaker.moveTo, hstate, Phase.state]
  refine
    { refused := by rw [hattempt]
      attempt := ?_
      check := ?_
      report := ?_
      last := ?_ }
  · have hact : r.act .attempt = (r.adopt (r.breaker.toOpen r.now false)).answer
        (r.breaker.attempt r.now).2 := by
      simp only [act, hattempt]
    constructor
    · rw [hact, answer_breaker]
      rfl
    · rw [hact, answer_transitions, adopt_transitions, hopened]
      rfl
  · have hact : r.act .check = r.adopt (r.breaker.toOpen r.now false) := by
      simp only [act, hchecked]
    constructor
    · rw [hact]
      rfl
    · rw [hact, adopt_transitions, hopened]
      rfl
  · intro a o haccepts hmore
    rw [hconfig] at hmore
    exact hr.reopens_on_report hvalid hphase hdeadline haccepts hmore
  · intro a o haccepts hlast
    rw [hconfig] at hlast ⊢
    exact (hr.last_outcome hvalid hphase haccepts hlast).2.1

/-- Before its deadline a trial goes on. -/
theorem Reachable.unhurried (hdeadline : Breaker.expired config trial r.now = false) :
    r.Unhurried := by
  intro a hforced hreset hmore
  have hunfinished := (hr.balanced hvalid trial hphase).unfinished
  have hcounted := (hr.balanced hvalid trial hphase).counted.completed
  rw [hr.config_eq] at hmore
  have hbefore : ∀ o, r.accepts? a = some o → r.history.period.length + 1 < config.trialCalls := by
    intro o haccepts
    have hother := hmore o haccepts
    omega
  rcases hr.before_last hvalid hphase hbefore with ⟨hstate, hsame, _⟩ | ha | ha | ⟨hlate, _⟩
  · exact ⟨hstate, hsame⟩
  · exact absurd ha hforced
  · exact absurd ha hreset
  · rw [hdeadline] at hlate
    cases hlate

end Deadline

/-- A trial that an act began at a reading is over when its limit has passed since then: the next
attempt, check or outcome that counts ends it.  Until then, and always without a limit, it ends only
by its last outcome or by hand.  The attempt that begins a trial is itself granted, whatever the
limit. -/
theorem trial_ends_at_deadline {config : Config} {r : Run} (hvalid : config.Valid)
    (hr : Reachable config r) (hbefore : r.breaker.state ≠ .halfOpen) (entry : Act)
    (during : List Act) (hperiod : (r.act entry).StaysHalfOpen during) :
    (entry = .attempt → (r.breaker.attempt r.now).2 = .granted (r.breaker.generation + 1)) ∧
    (∀ limit, config.trialMillis = some limit →
      limit ≤ ((r.act entry).acts during).now - r.now → ((r.act entry).acts during).Overdue) ∧
    ((∀ limit, config.trialMillis = some limit →
      ((r.act entry).acts during).now - r.now < limit) → ((r.act entry).acts during).Unhurried) := by
  rcases Breaker.state_eq_halfOpen_iff.mp hperiod.now with ⟨begun, hbegun⟩
  rcases (hr.sound.act entry).trial_lasts hperiod hbegun with ⟨trial, htrial, hsince⟩
  rw [hr.sound.trial_begins hbefore hbegun] at hsince
  have hlater := (hr.acts [entry]).acts during
  refine ⟨?_, ?_, ?_⟩
  · rintro rfl
    rcases hr.sound.act_halfOpen hbegun with ⟨old, hold, _⟩ | ⟨hopened, _⟩
    · exact absurd (Breaker.state_eq_halfOpen_iff.mpr ⟨old, hold⟩) hbefore
    · rcases Breaker.state_eq_opened_iff.mp hopened with ⟨period, hphase⟩
      have hcalls : 0 < r.breaker.config.trialCalls := by
        rw [hr.config_eq]
        exact hvalid.trialCalls
      by_cases hwaited : Breaker.waited period r.now = true
      · rw [Breaker.attempt_waited hphase hwaited hcalls]
      · rw [Bool.not_eq_true] at hwaited
        simp only [act, Breaker.attempt_waiting hphase hwaited, answer_breaker] at hbegun
        rw [show (r.adopt r.breaker.stays).breaker.phase = r.breaker.phase from rfl, hphase] at hbegun
        cases hbegun
  · intro limit hlimit hpassed
    rw [← hsince] at hpassed
    exact hlater.overdue hvalid htrial (Breaker.expired_iff.mpr ⟨limit, hlimit, hpassed⟩)
  · intro hleft
    apply hlater.unhurried hvalid htrial
    rw [Bool.eq_false_iff, Ne, Breaker.expired_iff]
    rintro ⟨limit, hlimit, hpassed⟩
    have hbound := hleft limit hlimit
    rw [hsince] at hpassed
    exact absurd hbound (Nat.not_lt.mpr hpassed)

end Run

/-- The short configuration with a limit on the wait for trial calls. -/
def Config.limited (wait : Duration) : Config := { Config.brief with trialWait := some wait }

theorem Config.limited_valid {wait : Duration} (h : 0 < wait.nanos) : (limited wait).Valid :=
  { brief_valid with
    trialWait := by
      intro d hd
      cases hd
      exact h }

namespace Run

/-- A failure opened the circuit, and its wait is over at the reading 5. -/
def due (wait : Duration) : Run :=
  (start "db" (.limited wait) .halves 0).acts [.attempt, .settle 0 .failed, .wait (.ofMillis 5)]

theorem due_reachable (wait : Duration) : (due wait).Reachable (.limited wait) :=
  (Reachable.start "db" (.limited wait) .halves 0).acts _

/-- With a limit of 10 ms the trial of the reading 5 may go on at the reading 14 and is over at the
reading 15, though the permit of its first call was handed back in between. -/
theorem trial_of_ten_millis :
    (((due (.ofMillis 10)).act .attempt).acts [.wait (.ofMillis 9), .giveBack 0]).Unhurried ∧
      (((due (.ofMillis 10)).act .attempt).acts
        [.wait (.ofMillis 9), .giveBack 0, .wait (.ofMillis 1)]).Overdue := by
  have hvalid : (Config.limited (.ofMillis 10)).Valid := Config.limited_valid (by decide)
  have hbefore : (due (.ofMillis 10)).breaker.state ≠ .halfOpen := by
    decide +kernel
  constructor
  · have hearly := trial_ends_at_deadline hvalid (due_reachable _) hbefore .attempt
      [.wait (.ofMillis 9), .giveBack 0] (by decide +kernel)
    apply hearly.2.2
    intro limit hlimit
    cases hlimit
    decide +kernel
  · have hlate := trial_ends_at_deadline hvalid (due_reachable _) hbefore .attempt
      [.wait (.ofMillis 9), .giveBack 0, .wait (.ofMillis 1)] (by decide +kernel)
    exact hlate.2.1 10 (by decide) (by decide +kernel)

/-- A limit below a millisecond is accepted and passes at once, and still the attempt that begins
the trial is granted. -/
theorem first_call_at_deadline :
    (Config.limited ⟨500000⟩).Valid ∧ (due ⟨500000⟩).Reachable (.limited ⟨500000⟩) ∧
      (due ⟨500000⟩).breaker.state = .opened ∧
      ∃ limit trial, (Config.limited ⟨500000⟩).trialMillis = some limit ∧
        ((due ⟨500000⟩).act .attempt).breaker.phase = .halfOpen trial ∧
        limit ≤ (due ⟨500000⟩).now - trial.since ∧
        ((due ⟨500000⟩).breaker.attempt (due ⟨500000⟩).now).2 =
          .granted ((due ⟨500000⟩).act .attempt).breaker.generation := by
  refine ⟨Config.limited_valid (by decide), due_reachable _, ?_, 0, ⟨5, 1, 0, 0, 0⟩, ?_⟩
  · decide +kernel
  · decide +kernel

end Run

end FailFast
