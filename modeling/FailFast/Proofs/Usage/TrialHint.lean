import FailFast.Proofs.Run.Deadline
import FailFast.Proofs.Usage.OpenPeriod

/-!
# The hint of a trial without permits

A trial whose permits are all taken refuses attempts, and it says how long to stay away: as long as
is left until its deadline.  But what is due at the deadline is the end of the trial, and the trial
ends by opening the circuit.  The caller that heeds the hint is therefore the one that opens the
circuit, and it is refused again, with the whole wait of the open period before it.  Only when this
second hint has been heeded too is an attempt granted.

Main results:

- Theorem `Usage.saturated_of_reply`: who is refused in the half-open state and with what hint.
- Theorem `Usage.reply_of_overdue` and theorem `Usage.granted_of_overdue`: at the deadline an
  attempt is refused by the open circuit, and once more heeding is enough.
- Theorem `Usage.trial_hint_ends_in_refusal`: what the caller finds that heeds the hint.
-/

namespace FailFast

namespace Usage

/-- A circuit as the caller finds it that was refused and then stayed away for as long as it was
told, with no one else using the circuit. -/
def heeding (u : Usage) (r : Rejection) : Usage := (u.use .acquire).use (.wait r.retryAfter)

/-- Until the clock wraps, the reading is later by the hint, if the refusal took no time. -/
theorem Reachable.now_heeding {config : Config} {u : Usage} (hu : u.Reachable config)
    (hrefused : (u.use .acquire).now = u.now) {r : Rejection} {ms : Nat}
    (hhint : r.retryAfter = .ofMillis ms) (hclock : (u.heeding r).Unwrapped) :
    (u.heeding r).now = u.now + ms := by
  unfold heeding at hclock ⊢
  rw [hhint] at hclock ⊢
  rw [(hu.use .acquire).now_wait hclock, hrefused]

section Hint

variable {config : Config} {u : Usage} {limit : Nat} {r : Rejection} (hvalid : config.Valid)
  (hlimit : config.trialMillis = some limit) (hu : u.Reachable config)
  (hrejected : u.reply .acquire = .rejected r) (hstate : r.state = .halfOpen)

include hvalid hlimit hu hrejected hstate

/-- A circuit that refuses an attempt in the half-open state is in a trial without permits, which is
not over; the hint is what is left of it. -/
theorem saturated_of_reply :
    ∃ trial left, u.circuit.breaker.phase = .halfOpen trial ∧ trial.permits = 0 ∧
      left = limit - (u.now - trial.since) ∧ 0 < left ∧ r.retryAfter = .ofMillis left ∧
      u.step .acquire = (u.put u.circuit.breaker.countRejection, [.rejected r], .rejected r) := by
  have hcalls : 0 < u.circuit.breaker.config.trialCalls := by
    rw [hu.config_eq]
    exact hvalid.trialCalls
  have hverdict : (u.circuit.breaker.attempt u.now).2 = .rejected .halfOpen r.retryAfter := by
    rw [reply_acquire] at hrejected
    cases hattempt : (u.circuit.breaker.attempt u.now).2 with
    | granted generation =>
        rw [hattempt] at hrejected
        cases hrejected
    | rejected state retryAfter =>
        rw [hattempt] at hrejected
        cases hrejected
        rw [← hstate]
  rcases Breaker.saturated_of_attempt hcalls hverdict with
    ⟨trial, hphase, hdeadline, hempty, hhint⟩
  have hattempt := Breaker.attempt_saturated hphase hdeadline hempty
  rw [← hhint] at hattempt
  have hstep := step_refused hattempt
  have hsame : r = ⟨u.circuit.breaker.name, .halfOpen, r.retryAfter⟩ := by
    rw [reply, hstep] at hrejected
    exact (Reply.rejected.inj hrejected).symm
  rw [hu.config_eq] at hdeadline hhint
  simp only [Breaker.expired, hlimit, decide_eq_false_iff_not] at hdeadline
  simp only [Breaker.trialRetry, hlimit] at hhint
  refine ⟨trial, limit - (u.now - trial.since), hphase, hempty, rfl, by omega, hhint, ?_⟩
  rw [hstep, ← hsame]
  rfl

end Hint

section Heeded

variable {u : Usage} {trial : TrialPeriod} (hphase : u.circuit.breaker.phase = .halfOpen trial)

include hphase

/-- A trial without permits, over or not, refuses every attempt. -/
theorem not_granted_of_saturated (hempty : trial.permits = 0) : u.reply .acquire ≠ .granted := by
  rw [reply_acquire]
  cases hdeadline : Breaker.expired u.circuit.breaker.config trial u.now with
  | true =>
      rw [Breaker.attempt_expired hphase hdeadline]
      simp
  | false =>
      rw [Breaker.attempt_saturated hphase hdeadline hempty]
      simp

/-- An attempt on a trial that is over opens the circuit and is refused with the whole wait. -/
theorem reply_of_overdue {config : Config} (hu : u.Reachable config)
    (hjitter : config.isJittered = false)
    (hdeadline : Breaker.expired config trial u.now = true) :
    u.reply .acquire =
      .rejected ⟨u.circuit.breaker.name, .opened, .ofMillis config.openWait.millis⟩ := by
  rw [← hu.config_eq] at hdeadline
  rw [reply_acquire, Breaker.attempt_expired hphase hdeadline, hu.name_eq, hu.config_eq,
    Config.openMillis_of_not_jittered hjitter]

/-- When the wait of that open period has passed as well, an attempt is granted. -/
theorem granted_of_overdue {config : Config} (hvalid : config.Valid) (hu : u.Reachable config)
    (hjitter : config.isJittered = false) (hpassive : u.circuit.callbacks.IsPassive)
    (hdeadline : Breaker.expired config trial u.now = true) {r : Rejection}
    (hhint : r.retryAfter = .ofMillis config.openWait.millis) (hclock : (u.heeding r).Unwrapped) :
    (u.heeding r).reply .acquire = .granted := by
  have hconfig := hu.config_eq
  have hopens := hdeadline
  rw [← hconfig] at hopens
  have hopened : (u.use .acquire).circuit.breaker.phase =
      .opened ⟨u.now, config.openWait.millis, false⟩ := by
    rw [use, step_acquire_rejected hpassive (Breaker.attempt_expired hphase hopens),
      ← Config.openMillis_of_not_jittered hjitter, ← hconfig]
    rfl
  have hwaited :
      Breaker.waited ⟨u.now, config.openWait.millis, false⟩ (u.heeding r).now = true := by
    rw [hu.now_heeding (use_now hpassive fun _ => Use.noConfusion) hhint hclock]
    simp [Breaker.waited]
  have hsame := ((hu.use .acquire).use (.wait r.retryAfter)).config_eq
  have hcalls : 0 < (u.heeding r).circuit.breaker.config.trialCalls := by
    rw [heeding, hsame]
    exact hvalid.trialCalls
  have hattempt := Breaker.attempt_waited (b := (u.heeding r).circuit.breaker) hopened hwaited hcalls
  rw [reply_acquire, hattempt]

end Heeded

/-- A caller that is refused by a trial without permits, and heeds the hint, is never granted its
next attempt: until the clock wraps it finds the trial over, opens the circuit and is refused with
the whole wait of the open period.  With callbacks that only watch its next attempt is granted when
it heeds this second hint too. -/
theorem trial_hint_ends_in_refusal {config : Config} {u : Usage} {limit : Nat}
    (hvalid : config.Valid) (hjitter : config.isJittered = false)
    (hlimit : config.trialMillis = some limit) (hu : u.Reachable config) {r : Rejection}
    (hrejected : u.reply .acquire = .rejected r) (hstate : r.state = .halfOpen) :
    (∃ left, r.retryAfter = .ofMillis left ∧ 0 < left ∧ left ≤ limit) ∧
    (u.heeding r).reply .acquire ≠ .granted ∧
    ((u.heeding r).Unwrapped →
      ∃ second : Rejection, second.state = .opened ∧
        second.retryAfter = .ofMillis config.openWait.millis ∧
        (u.heeding r).reply .acquire = .rejected second ∧
        (u.circuit.callbacks.IsPassive → ((u.heeding r).heeding second).Unwrapped →
          ((u.heeding r).heeding second).reply .acquire = .granted)) := by
  rcases saturated_of_reply hvalid hlimit hu hrejected hstate with
    ⟨trial, left, hphase, hempty, hleft, hpositive, hhint, hstep⟩
  have hlater : (u.heeding r).Reachable config := (hu.use .acquire).use _
  have hsame : (u.heeding r).circuit.breaker.phase = .halfOpen trial := by
    rw [heeding, use, use, hstep]
    exact hphase
  refine ⟨⟨left, hhint, hpositive, by omega⟩, not_granted_of_saturated hsame hempty, ?_⟩
  intro hclock
  have hrefused : (u.use .acquire).now = u.now := by
    rw [use, hstep]
    rfl
  have hnow := hu.now_heeding hrefused hhint hclock
  have hbegan : trial.since ≤ u.now := by
    rcases hu.tracked with ⟨run, hrun, htracks⟩
    have hbefore : u.Unwrapped := Unwrapped.before (Unwrapped.before hclock)
    rw [← htracks.now_eq]
    rw [← htracks.breaker] at hphase
    exact hrun.since_le (htracks.unwrapped_iff.mpr hbefore) hphase
  have hdeadline : Breaker.expired config trial (u.heeding r).now = true := by
    rw [Breaker.expired_iff]
    exact ⟨limit, hlimit, by omega⟩
  refine ⟨_, rfl, rfl, reply_of_overdue hsame hlater hjitter hdeadline, ?_⟩
  intro hpassive
  exact granted_of_overdue hsame hvalid hlater hjitter (passive_uses hpassive [.acquire, .wait _])
    hdeadline rfl

/-- A trial with a limit of 10 ms, both of whose permits are taken. -/
def saturated : Usage :=
  (start "db" (.limited (.ofMillis 10)) .halves .none none 0).uses
    [.acquire, .complete 0 .failed, .wait (.ofMillis 5), .acquire, .acquire]

/-- The next caller is told to stay away for 10 ms.  It is refused again when it comes back, and
told to stay away for the 5 ms of the open wait, and after them it is granted its attempt. -/
theorem trial_hint_of_ten_millis :
    saturated.reply .acquire = .rejected ⟨"db", .halfOpen, .ofMillis 10⟩ ∧
    ∃ second : Rejection, second.state = .opened ∧ second.retryAfter = .ofMillis 5 ∧
      (saturated.heeding ⟨"db", .halfOpen, .ofMillis 10⟩).reply .acquire = .rejected second ∧
      ((saturated.heeding ⟨"db", .halfOpen, .ofMillis 10⟩).heeding second).reply .acquire =
        .granted := by
  have hvalid : (Config.limited (.ofMillis 10)).Valid := Config.limited_valid (by decide)
  have hreachable : saturated.Reachable (.limited (.ofMillis 10)) :=
    Reachable.uses (.start "db" .halves .none none 0) _
  have hrejected : saturated.reply .acquire = .rejected ⟨"db", .halfOpen, .ofMillis 10⟩ := by
    decide +kernel
  rcases trial_hint_ends_in_refusal hvalid (by decide) (show _ = some 10 by decide) hreachable
    hrejected rfl with ⟨_, _, hheeded⟩
  have hclock : (saturated.heeding ⟨"db", .halfOpen, .ofMillis 10⟩).Unwrapped := by
    unfold Unwrapped
    decide +kernel
  have hpassive : saturated.circuit.callbacks.IsPassive := by
    rw [saturated, uses_callbacks]
    exact Or.inl rfl
  rcases hheeded hclock with ⟨second, hopened, hwhole, hagain, hgranted⟩
  refine ⟨hrejected, second, hopened, hwhole, hagain, hgranted hpassive ?_⟩
  rw [heeding, hwhole]
  unfold Unwrapped
  decide +kernel

end Usage

end FailFast
