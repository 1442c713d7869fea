import FailFast.Proofs.Run.Effects

/-!
# Durations in milliseconds

A configuration is accepted when its durations are greater than zero, and they are given to the
nanosecond.  What a breaker compares are whole milliseconds, and it compares their low 64 bits.  So
a duration below one millisecond counts as none at all, and a duration of more milliseconds than a
word can hold starts from none again.

In between every accepted duration is some milliseconds, and of two durations the longer one is not
fewer.  But where the wait of an open circuit comes to none, the circuit that just opened admits the
next caller at the very reading at which it opened.

Main results:

- Theorem `Duration.millis_eq_zero_iff`: the durations that count as none.
- Theorem `Duration.millis_le_of_le`: a longer duration is fewer milliseconds only if it passed the
  greatest word once more.
- Theorem `Run.Reachable.waitsInFull`: every open period waits for as long as is configured.
- Theorem `Run.durations_in_millis`: what accepted durations come to, and when a circuit that just
  opened admits a call.
-/

namespace FailFast

namespace Duration

/-- How often the milliseconds of a duration pass the greatest word. -/
def wraps (d : Duration) : Nat := d.nanos / 1000000 / wordCount

/-- The milliseconds of a duration and the words that were dropped. -/
theorem millis_add_wraps (d : Duration) : d.millis + wordCount * d.wraps = d.nanos / 1000000 :=
  Nat.mod_add_div _ _

/-- A duration counts as none when its whole milliseconds are a number of words. -/
theorem millis_eq_zero_iff (d : Duration) : d.millis = 0 ↔ wordCount ∣ d.nanos / 1000000 :=
  (Nat.dvd_iff_mod_eq_zero).symm

/-- A duration from one millisecond on, of fewer milliseconds than there are words, is some. -/
theorem millis_pos {d : Duration} (hlow : 1000000 ≤ d.nanos) (hhigh : d.wraps = 0) :
    0 < d.millis := by
  have hsplit := d.millis_add_wraps
  have hwhole : 0 < d.nanos / 1000000 := Nat.div_pos hlow (by decide)
  rw [hhigh, Nat.mul_zero, Nat.add_zero] at hsplit
  omega

/-- A longer duration is no fewer milliseconds, unless it passed the greatest word once more. -/
theorem millis_le_of_le {d e : Duration} (h : d.nanos ≤ e.nanos) :
    d.millis ≤ e.millis ∨ d.wraps < e.wraps := by
  have hd := d.millis_add_wraps
  have he := e.millis_add_wraps
  have hwhole : d.nanos / 1000000 ≤ e.nanos / 1000000 := Nat.div_le_div_right h
  have hwraps : d.wraps ≤ e.wraps := Nat.div_le_div_right hwhole
  rcases Nat.lt_or_eq_of_le hwraps with hmore | hsame
  · exact Or.inr hmore
  · left
    rw [hsame] at hd
    omega

end Duration

/-! ## What is compared -/

/-- The durations of a configuration that readings of the clock or the lengths of calls are compared
with, and the milliseconds that they come to.  A wait with jitter is random and not among them. -/
inductive Config.Compares (config : Config) : Duration → Nat → Prop where
  | openWait (hplain : config.isJittered = false) (draw : Draw) :
      Compares config config.openWait (config.openMillis draw)
  | slowCall : Compares config config.slowCall config.slowMillis
  | trialWait {wait : Duration} {limit : Nat} (hwait : config.trialWait = some wait)
      (hlimit : config.trialMillis = some limit) : Compares config wait limit

/-- They are the milliseconds of the duration. -/
theorem Config.Compares.millis {config : Config} {d : Duration} {ms : Nat}
    (h : config.Compares d ms) : ms = d.millis := by
  cases h with
  | openWait hplain draw => exact Config.openMillis_of_not_jittered hplain draw
  | slowCall => rfl
  | trialWait hwait hlimit =>
      rw [Config.trialMillis, hwait] at hlimit
      exact (Option.some.inj hlimit).symm

/-- In an accepted configuration each of them is greater than zero. -/
theorem Config.Compares.positive {config : Config} {d : Duration} {ms : Nat}
    (h : config.Compares d ms) (hvalid : config.Valid) : 0 < d.nanos := by
  cases h with
  | openWait _ _ => exact hvalid.openWait
  | slowCall => exact hvalid.slowCall
  | trialWait hwait _ => exact hvalid.trialWait _ hwait

/-! ## The wait of an open period -/

namespace Breaker

/-- An open period began with the last change of state and waits for as long as is configured. -/
def WaitsInFull (b : Breaker) : Prop :=
  ∀ period, b.phase = .opened period →
    period.since = b.changedAt ∧ period.wait = b.config.openWait.millis

section Waits

variable {b : Breaker}

/-- Every way on keeps it: a period that begins has the whole wait. -/
theorem Leads.waitsInFull {now : Nat} {m : Moved} (h : b.Leads now m)
    (hjitter : b.config.isJittered = false) (hb : b.WaitsInFull) : m.breaker.WaitsInFull := by
  intro period hphase
  cases h with
  | stays => exact hb period hphase
  | opens forced _ =>
      cases hphase
      exact ⟨rfl, Config.openMillis_of_not_jittered hjitter _⟩
  | probes _ => cases hphase
  | closes _ => cases hphase

/-- Recording an outcome leaves an open period. -/
theorem WaitsInFull.recorded (hb : b.WaitsInFull) (now : Nat) (o : Outcome) :
    (b.recorded now o).WaitsInFull := by
  intro period hphase
  unfold Breaker.recorded at hphase
  cases hbefore : b.phase with
  | closed => simp [hbefore] at hphase
  | halfOpen trial => simp [hbefore] at hphase
  | opened before =>
      simp only [hbefore, Phase.opened.injEq] at hphase
      rw [← hphase]
      exact hb before hbefore

/-- So does deciding on an attempt. -/
theorem WaitsInFull.decideNow (hb : b.WaitsInFull) (now : Nat) :
    (b.decideNow now).1.WaitsInFull := by
  intro period hphase
  rw [(b.decideNow_alike now).config, (b.decideNow_alike now).changedAt]
  refine hb period ?_
  unfold Breaker.decideNow at hphase
  cases hbefore : b.phase with
  | closed =>
      simp only [hbefore] at hphase
      cases hphase
  | opened before =>
      simp only [hbefore] at hphase
      exact hphase
  | halfOpen trial =>
      simp only [hbefore] at hphase
      split at hphase
      · cases hphase
      · simp [hbefore] at hphase

/-- And handing back a permit. -/
theorem WaitsInFull.release (hb : b.WaitsInFull) (generation : Nat) :
    (b.release generation).WaitsInFull := by
  intro period hphase
  rw [(b.release_alike generation).config, (b.release_alike generation).changedAt]
  refine hb period ?_
  unfold Breaker.release at hphase
  split at hphase
  · exact hphase
  · cases hbefore : b.phase with
    | closed => simp [hbefore] at hphase
    | opened before =>
        simp only [hbefore] at hphase
        exact hphase
    | halfOpen trial => simp [hbefore] at hphase

/-- Forcing the circuit open marks an open period and leaves its wait. -/
theorem WaitsInFull.forceOpen (hb : b.WaitsInFull) (hjitter : b.config.isJittered = false)
    (now : Nat) : (b.forceOpen now).breaker.WaitsInFull := by
  intro period hphase
  unfold Breaker.forceOpen at hphase ⊢
  cases hbefore : b.phase with
  | opened before =>
      simp only [hbefore] at hphase ⊢
      cases hphase
      exact hb before hbefore
  | closed =>
      simp only [hbefore] at hphase ⊢
      cases hphase
      exact ⟨rfl, Config.openMillis_of_not_jittered hjitter _⟩
  | halfOpen trial =>
      simp only [hbefore] at hphase ⊢
      cases hphase
      exact ⟨rfl, Config.openMillis_of_not_jittered hjitter _⟩

end Waits

end Breaker

namespace Run

section Waits

variable {config : Config} {r : Run}

/-- Every act keeps it. -/
theorem act_waitsInFull (hr : r.breaker.WaitsInFull)
    (hjitter : r.breaker.config.isJittered = false) (a : Act) :
    (r.act a).breaker.WaitsInFull := by
  -- Breakers that are alike may differ in the wait of their period, so each act is looked at.
  cases a with
  | wait d => exact hr
  | attempt =>
      rw [act_attempt, answer_breaker]
      exact ((r.breaker.check_leads r.now).waitsInFull hjitter hr).decideNow r.now
  | handOver i => exact hr
  | countRejection =>
      simp only [act]
      split
      · exact hr
      · exact hr
  | settle i how =>
      cases ht : r.tickets[i]? with
      | none =>
          rw [act_settle_none ht]
          exact hr
      | some t =>
          rw [act_settle ht]
          by_cases hlive : r.breaker.generation = t.permit.generation
          · exact (Breaker.complete_leads hlive r.now _).waitsInFull hjitter (hr.recorded r.now _)
          · rw [Run.settle, Breaker.complete_stale hlive]
            exact hr
  | giveBack i =>
      cases ht : r.tickets[i]? with
      | none =>
          rw [act_giveBack_none ht]
          exact hr
      | some t =>
          rw [act_giveBack ht]
          exact hr.release t.permit.generation
  | check => exact (r.breaker.check_leads r.now).waitsInFull hjitter hr
  | forceOpen => exact hr.forceOpen hjitter r.now
  | reset =>
      intro period hphase
      cases hphase

/-- In every run an open period waits for as long as is configured. -/
theorem Reachable.waitsInFull (hr : Reachable config r) (hjitter : config.isJittered = false) :
    r.breaker.WaitsInFull := by
  refine hr.induction (P := fun r => r.breaker.WaitsInFull) ?_ ?_
  · intro name draws instant period hphase
    cases hphase
  · intro r a hr hwaits
    refine act_waitsInFull hwaits ?_ a
    rw [hr.config_eq]
    exact hjitter

/-- A circuit that opened at the present reading, and not by hand, admits a call at once if and only
if its wait comes to none. -/
theorem Reachable.granted_at_once_iff (hr : Reachable config r) (hvalid : config.Valid)
    (hjitter : config.isJittered = false) (hopened : r.breaker.state = .opened)
    (hunforced : r.breaker.isForced = false) (hnow : r.breaker.changedAt = r.now) :
    (∃ generation, (r.breaker.attempt r.now).2 = .granted generation) ↔
      config.openWait.millis = 0 := by
  obtain ⟨period, hphase⟩ := Breaker.state_eq_opened_iff.mp hopened
  obtain ⟨hsince, hwait⟩ := hr.waitsInFull hjitter period hphase
  rw [hr.config_eq] at hwait
  rw [Breaker.isForced, hphase] at hunforced
  have hpassed : r.now - period.since = 0 := by omega
  have hwaited : Breaker.waited period r.now = true ↔ config.openWait.millis = 0 := by
    simp [Breaker.waited, show period.forced = false from hunforced, hpassed, hwait]
  have hcalls : 0 < r.breaker.config.trialCalls := by
    rw [hr.config_eq]
    exact hvalid.trialCalls
  rw [← hwaited]
  cases hover : Breaker.waited period r.now with
  | true => exact iff_of_true ⟨_, by rw [Breaker.attempt_waited hphase hover hcalls]⟩ rfl
  | false =>
      refine iff_of_false ?_ Bool.false_ne_true
      rintro ⟨generation, hgranted⟩
      rw [Breaker.attempt_waiting hphase hover] at hgranted
      cases hgranted

end Waits

/-- The durations of an accepted configuration are greater than zero.  Such a duration comes to no
milliseconds if and only if it has no whole milliseconds but those of full words, and a duration
that is at least as long, in this or another configuration, comes to fewer milliseconds only if it
fills more words.  In every run without jitter, a circuit that opened at the present reading, and
not by hand, admits a call at this very reading if and only if the wait comes to none. -/
theorem durations_in_millis {config : Config} (hvalid : config.Valid) :
    (∀ d ms, config.Compares d ms →
      0 < d.nanos ∧ (ms = 0 ↔ wordCount ∣ d.nanos / 1000000) ∧
      (1000000 ≤ d.nanos → d.wraps = 0 → 0 < ms)) ∧
    (∀ (other : Config) d ms e ms', config.Compares d ms → other.Compares e ms' →
      d.nanos ≤ e.nanos → ms ≤ ms' ∨ d.wraps < e.wraps) ∧
    (∀ r, Reachable config r → config.isJittered = false → r.breaker.state = .opened →
      r.breaker.isForced = false → r.breaker.changedAt = r.now →
      ((∃ generation, (r.breaker.attempt r.now).2 = .granted generation) ↔
        wordCount ∣ config.openWait.nanos / 1000000)) := by
  refine ⟨?_, ?_, ?_⟩
  · intro d ms hcompares
    rw [hcompares.millis]
    exact ⟨hcompares.positive hvalid, d.millis_eq_zero_iff, Duration.millis_pos⟩
  · intro other d ms e ms' hd he hle
    rw [hd.millis, he.millis]
    exact Duration.millis_le_of_le hle
  · intro r hr hjitter hopened hunforced hnow
    rw [hr.granted_at_once_iff hvalid hjitter hopened hunforced hnow]
    exact Duration.millis_eq_zero_iff _

end Run

/-- The short configuration with another wait of the open circuit. -/
def Config.waiting (wait : Duration) : Config := { Config.brief with openWait := wait }

theorem Config.waiting_valid {wait : Duration} (h : 0 < wait.nanos) : (waiting wait).Valid :=
  { brief_valid with openWait := h }

namespace Run

/-- A failure opened the circuit just now. -/
def justOpened (wait : Duration) : Run :=
  (start "db" (.waiting wait) .halves 0).acts [.attempt, .settle 0 .failed]

theorem justOpened_reachable (wait : Duration) :
    (justOpened wait).Reachable (.waiting wait) :=
  (Reachable.start "db" (.waiting wait) .halves 0).acts _

/-- With a wait of 5 ms the circuit that opened at the reading 0 refuses the call at this reading,
and no configuration compares with 5 ms or more and comes to less, unless it fills a word. -/
theorem refused_within_five_millis :
    (justOpened (.ofMillis 5)).breaker.state = .opened ∧
      (¬ ∃ generation, ((justOpened (.ofMillis 5)).breaker.attempt 0).2 = .granted generation) ∧
      ∀ (other : Config) e ms, other.Compares e ms → 5000000 ≤ e.nanos →
        5 ≤ ms ∨ 0 < e.wraps := by
  have hvalid : (Config.waiting (.ofMillis 5)).Valid := Config.waiting_valid (by decide)
  have hplain : (Config.waiting (.ofMillis 5)).isJittered = false := by decide +kernel
  have hopened : (justOpened (.ofMillis 5)).breaker.state = .opened := by decide +kernel
  obtain ⟨_, hmonotone, hrefused⟩ := durations_in_millis hvalid
  refine ⟨hopened, ?_, ?_⟩
  · have hiff := hrefused _ (justOpened_reachable _) hplain hopened (by decide +kernel)
      (by decide +kernel)
    exact fun hgranted => absurd (hiff.mp hgranted) (by decide +kernel)
  · intro other e ms he hle
    exact hmonotone other _ _ e ms (.openWait hplain 0) he hle

/-- Half a millisecond is an accepted wait that comes to none: a failure opens the circuit and the
next call is admitted at the same reading.  And the accepted wait of as many milliseconds as there
are words is longer than one millisecond and comes to less. -/
theorem accepted_wait_of_none :
    (Config.waiting ⟨500000⟩).Valid ∧ (Config.waiting ⟨500000⟩).isJittered = false ∧
      (Config.waiting ⟨500000⟩).openMillis 0 = 0 ∧
      (justOpened ⟨500000⟩).Reachable (.waiting ⟨500000⟩) ∧
      (justOpened ⟨500000⟩).breaker.state = .opened ∧
      (justOpened ⟨500000⟩).breaker.changedAt = (justOpened ⟨500000⟩).now ∧
      ((justOpened ⟨500000⟩).breaker.attempt (justOpened ⟨500000⟩).now).2 = .granted 2 ∧
      (Config.waiting (.ofMillis wordCount)).Valid ∧
      (Duration.ofMillis 1).nanos ≤ (Duration.ofMillis wordCount).nanos ∧
      (Config.waiting (.ofMillis wordCount)).openMillis 0 <
        (Config.waiting (.ofMillis 1)).openMillis 0 := by
  refine ⟨Config.waiting_valid (by decide), ?_, ?_, justOpened_reachable _, ?_, ?_, ?_,
    Config.waiting_valid (by decide), ?_, ?_⟩
  all_goals decide +kernel

end Run

end FailFast
