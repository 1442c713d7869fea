import Mathlib.Data.List.Perm.Basic
import FailFast.Proofs.Run.Effects

/-!
# The two books of a trial

A half-open circuit keeps two books: the trial data of the breaker, with the permits left and the
outcomes counted, and, outside the breaker, the permits of the current generation in the hands of
callers and the outcomes accepted since the trial began.  One act moves both together in one of
four ways, and whatever else happens ends the trial.  A trial begins with all permits left, none in
the hands of callers and no outcome, so the books agree as long as it lasts.

Main results:

- Theorem `Run.Sound.act_halfOpen`: the ways in which one act can leave a circuit half open.
- Theorem `TrialPeriod.Goes.balanced`: one act within a trial keeps the books balanced.
- Theorem `Run.Reachable.trial_induction`: what acts within a trial keep holds in every half-open
  state.
- Theorem `Run.Reachable.balanced`: the books of every half-open circuit are balanced.
-/

namespace FailFast

/-- One act within a trial: what it makes of the trial data, of the number of live permits in the
hands of callers, and of the outcomes accepted in the trial. -/
inductive TrialPeriod.Goes (config : Config) (trial : TrialPeriod) (live : Nat)
    (os : List Outcome) : TrialPeriod → Nat → List Outcome → Prop where
  | idle : Goes config trial live os trial live os
  | grant (h : 0 < trial.permits) :
      Goes config trial live os { trial with permits := trial.permits - 1 } (live + 1) os
  | giveBack {rest : Nat} (h : live = rest + 1) :
      Goes config trial live os { trial with permits := trial.permits + 1 } rest os
  | report {rest : Nat} (h : live = rest + 1) (o : Outcome)
      (hmore : trial.completed + 1 < config.trialCalls) :
      Goes config trial live os (trial.count config.slowMillis o) rest (os ++ [o])

/-! ## Balanced books -/

/-- The counts of a trial are those of a list of outcomes. -/
structure TrialPeriod.Counted (slowAt : Nat) (trial : TrialPeriod) (os : List Outcome) : Prop where
  completed : trial.completed = os.length
  failures : trial.failures = os.countP (!·.succeeded)
  slow : trial.slow = os.countP (·.isSlow slowAt)

/-- Counting an outcome appends it. -/
theorem TrialPeriod.Counted.count {slowAt : Nat} {trial : TrialPeriod} {os : List Outcome}
    (h : trial.Counted slowAt os) (o : Outcome) : (trial.count slowAt o).Counted slowAt (os ++ [o])
    where
  completed := by simp [TrialPeriod.count, h.completed]
  failures := by
    simp only [TrialPeriod.count, List.countP_append, List.countP_singleton, h.failures]
    cases o.succeeded <;> rfl
  slow := by
    simp only [TrialPeriod.count, List.countP_append, List.countP_singleton, h.slow]
    split <;> rfl

/-- The verdict reads the counts of exactly these outcomes. -/
theorem TrialPeriod.Counted.counts_eq {slowAt : Nat} {trial : TrialPeriod} {os : List Outcome}
    (h : trial.Counted slowAt os) : trial.counts = Counts.ofOutcomes slowAt os := by
  have hsplit : os.length = os.countP (·.succeeded) + os.countP (!·.succeeded) := by
    rw [List.length_eq_countP_add_countP (·.succeeded)]
    simp
  have hsuccesses : os.length - os.countP (!·.succeeded) = os.countP (·.succeeded) := by
    omega
  simp only [TrialPeriod.counts, Counts.ofOutcomes, h.completed, h.failures, h.slow, hsuccesses]

/-- The books of a trial agree: each of its permits is left, in the hands of a caller or used up by
an outcome that was counted; and not all are used up. -/
structure TrialPeriod.Balanced (config : Config) (trial : TrialPeriod) (live : Nat)
    (os : List Outcome) : Prop where
  permits : trial.permits + live + trial.completed = config.trialCalls
  unfinished : trial.completed < config.trialCalls
  counted : trial.Counted config.slowMillis os

/-- A trial begins with balanced books. -/
theorem TrialPeriod.balanced_start {config : Config} (hcalls : 0 < config.trialCalls)
    (now : Nat) : (TrialPeriod.start now config.trialCalls).Balanced config 0 [] :=
  ⟨rfl, hcalls, rfl, rfl, rfl⟩

/-- One act within a trial counts the outcome accepted in it, if there is one. -/
theorem TrialPeriod.Goes.counted {config : Config} {trial next : TrialPeriod} {live after : Nat}
    {os seen : List Outcome} (hgoes : trial.Goes config live os next after seen)
    (h : trial.Counted config.slowMillis os) : next.Counted config.slowMillis seen := by
  cases hgoes with
  | idle => exact h
  | grant => exact ⟨h.completed, h.failures, h.slow⟩
  | giveBack => exact ⟨h.completed, h.failures, h.slow⟩
  | report _ o => exact h.count o

/-- One act within a trial keeps the books balanced. -/
theorem TrialPeriod.Goes.balanced {config : Config} {trial next : TrialPeriod} {live after : Nat}
    {os seen : List Outcome} (hgoes : trial.Goes config live os next after seen)
    (h : trial.Balanced config live os) : next.Balanced config after seen := by
  have hpermits := h.permits
  have hcounted := hgoes.counted h.counted
  cases hgoes with
  | idle => exact h
  | grant hleft =>
      refine ⟨?_, h.unfinished, hcounted⟩
      dsimp only
      omega
  | giveBack hlive =>
      refine ⟨?_, h.unfinished, hcounted⟩
      dsimp only
      omega
  | report hlive o hmore =>
      refine ⟨?_, hmore, hcounted⟩
      dsimp only [TrialPeriod.count]
      omega

namespace Run

/-! ## Live permits -/

/-- Handing over a permit leaves the number of live permits. -/
theorem live_handOver (r : Run) (i : Nat) : (r.act (.handOver i)).live = r.live := by
  have hsame := congrArg
    (List.countP fun key : Nat × Nat => key.1 == r.breaker.generation) (r.tickets_handOver i)
  rw [List.countP_map, List.countP_map] at hsame
  exact hsame

/-- When a ticket leaves the hands of its holder there is one live permit less, unless it is
stale. -/
theorem live_drop {r : Run} {i : Nat} {t : Ticket} (ht : r.tickets[i]? = some t) :
    r.live =
      (r.drop i).live + if t.permit.generation = r.breaker.generation then 1 else 0 := by
  obtain ⟨hi, hget⟩ := List.getElem?_eq_some_iff.mp ht
  have hperm := List.getElem_cons_eraseIdx_perm hi
  rw [hget] at hperm
  have hcount := hperm.countP_eq fun t => t.permit.generation == r.breaker.generation
  rw [List.countP_cons] at hcount
  simp only [beq_iff_eq] at hcount
  exact hcount.symm

/-- After a change no ticket of before is live. -/
theorem Sound.live_eq_zero {r next : Run} (hr : Sound r) (htickets : next.tickets = r.tickets)
    (hgeneration : next.breaker.generation = r.breaker.generation + 1) : next.live = 0 := by
  unfold live
  rw [htickets, List.countP_eq_zero]
  intro t ht hlive
  have hle := hr.generation_le ht
  have heq := eq_of_beq hlive
  omega

/-- A granted permit is one more live permit. -/
theorem live_answer (r : Run) : (r.answer (.granted r.breaker.generation)).live = r.live + 1 := by
  unfold live
  exact List.countP_cons_of_pos (beq_self_eq_true _)

/-! ## The parts of an act -/

/-- A way on that leads to a trial either stays in it, with both books unchanged, or begins it. -/
theorem Sound.adopt_halfOpen {r : Run} (hr : Sound r) {b : Breaker} (hb : r.breaker.Alike b)
    {m : Moved} (hm : b.Leads r.now m) {trial : TrialPeriod}
    (hphase : m.breaker.phase = .halfOpen trial) :
    (b.phase = .halfOpen trial ∧ m.breaker.generation = r.breaker.generation ∧
      (r.adopt m).live = r.live ∧ (r.adopt m).history.period = r.history.period) ∨
    (r.breaker.state = .opened ∧ trial = .start r.now r.breaker.config.trialCalls ∧
      (r.adopt m).live = 0 ∧ (r.adopt m).history.period = []) := by
  rcases hm.halfOpen hphase with ⟨rfl, hstayed⟩ | ⟨rfl, hopened, htrial⟩
  · refine Or.inl ⟨hstayed, hb.generation, ?_, rfl⟩
    have hgeneration : (r.adopt b.stays).breaker.generation = r.breaker.generation := hb.generation
    unfold live
    rw [hgeneration]
    rfl
  · rw [hb.config] at htrial
    refine Or.inr ⟨hb.state.symm.trans hopened, htrial, ?_, ?_⟩
    · exact hr.live_eq_zero rfl (congrArg (· + 1) hb.generation)
    · exact History.acceptedSince_start rfl r.history

/-- Deciding on an attempt during a trial takes a permit or leaves the trial as it is. -/
theorem answer_goes {r : Run} {next : TrialPeriod}
    (hnext : (r.breaker.decideNow r.now).1.phase = .halfOpen next) :
    ∃ trial, r.breaker.phase = .halfOpen trial ∧
      trial.Goes r.breaker.config r.live r.history.period next
        ({ r with breaker := (r.breaker.decideNow r.now).1 }.answer
          (r.breaker.decideNow r.now).2).live
        ({ r with breaker := (r.breaker.decideNow r.now).1 }.answer
          (r.breaker.decideNow r.now).2).history.period := by
  have hperiod : ∀ verdict : Breaker.Verdict,
      ({ r with breaker := (r.breaker.decideNow r.now).1 }.answer verdict).history.period =
        r.history.period := by
    intro verdict
    exact (answer_goesOn _ verdict).period_eq
  rw [hperiod]
  cases hphase : r.breaker.phase with
  | closed => simp [Breaker.decideNow, hphase] at hnext
  | opened period => simp [Breaker.decideNow, hphase] at hnext
  | halfOpen trial =>
      refine ⟨trial, rfl, ?_⟩
      by_cases hpermits : 0 < trial.permits
      · have hdecide : r.breaker.decideNow r.now =
            (r.breaker.take trial, .granted r.breaker.generation) := by
          simp [Breaker.decideNow, hphase, hpermits]
        rw [hdecide] at hnext ⊢
        cases hnext
        rw [show r.breaker.generation = (r.breaker.take trial).generation from rfl]
        rw [live_answer { r with breaker := r.breaker.take trial }]
        exact .grant hpermits
      · have hdecide : r.breaker.decideNow r.now =
            (r.breaker, .rejected .halfOpen (Breaker.trialRetry r.breaker.config trial r.now)) := by
          simp [Breaker.decideNow, hphase, hpermits]
        rw [hdecide] at hnext ⊢
        rw [hphase] at hnext
        cases hnext
        exact .idle

/-- Settling a ticket during a trial counts its outcome, or nothing when it is stale. -/
theorem Sound.settle_goes {r : Run} (hr : Sound r) {i : Nat} {t : Ticket}
    (ht : r.tickets[i]? = some t) (how : Completion) {next : TrialPeriod}
    (hnext : (r.act (.settle i how)).breaker.phase = .halfOpen next) :
    ∃ trial, r.breaker.phase = .halfOpen trial ∧
      (r.act (.settle i how)).breaker.generation = r.breaker.generation ∧
      trial.Goes r.breaker.config r.live r.history.period next
        (r.act (.settle i how)).live (r.act (.settle i how)).history.period := by
  have hmem := mem_tickets ht
  have hdrop := live_drop ht
  cases hchanged : r.history.changedSince t.mark with
  | true =>
      have hne := (hr.generation_ne_iff hmem).mpr hchanged
      rw [if_neg (Ne.symm hne)] at hdrop
      rw [hr.settle_stale ht hchanged] at hnext ⊢
      refine ⟨next, hnext, rfl, ?_⟩
      have hlive : ((r.drop i).note (.settled t.mark (r.outcome t how))).live = r.live :=
        hdrop.symm
      have hsame : ((r.drop i).note (.settled t.mark (r.outcome t how))).history.period =
          r.history.period := by
        apply History.GoesOn.period_eq
        exact Or.inr ⟨_, rfl, rfl, if_pos hchanged⟩
      rw [hlive, hsame]
      exact .idle
  | false =>
      have hgeneration := hr.generation_eq hmem hchanged
      rw [if_pos hgeneration.symm] at hdrop
      rw [act_settle ht] at hnext ⊢
      have hnoted : Sound ((r.drop i).note (.settled t.mark (r.outcome t how))) :=
        (hr.drop i).note rfl
      rcases hnoted.adopt_halfOpen (Breaker.recorded_alike _ _ _)
          (Breaker.complete_leads hgeneration r.now (r.outcome t how)) hnext with
        ⟨hrecorded, hgoesOn, hlive, hsame⟩ | ⟨hopened, _⟩
      · obtain ⟨trial, hphase, hcounted⟩ := Breaker.recorded_halfOpen hrecorded
        have hphase : r.breaker.phase = .halfOpen trial := hphase
        have hcounted : next = trial.count r.breaker.config.slowMillis (r.outcome t how) := hcounted
        have hgained : ((r.drop i).note (.settled t.mark (r.outcome t how))).history.period =
            r.history.period ++ [r.outcome t how] := by
          refine (r.history.period_settled t.mark (r.outcome t how)).trans ?_
          rw [hchanged]
          rfl
        have hmore : trial.completed + 1 < r.breaker.config.trialCalls := by
          have hjudged : (r.breaker.complete r.now t.permit.generation
              (r.outcome t how)).breaker.phase = .halfOpen next := hnext
          rw [Breaker.complete_halfOpen hgeneration hphase] at hjudged
          exact Breaker.judge_goesOn hjudged
        refine ⟨trial, hphase, hgoesOn, ?_⟩
        rw [hcounted]
        rw [show (r.settle i t how).live = (r.drop i).live from hlive]
        rw [show (r.settle i t how).history.period = r.history.period ++ [r.outcome t how] from
          hsame.trans hgained]
        exact .report hdrop _ hmore
      · exact absurd hopened (hr.state_of_unchanged hmem hchanged).2

/-- Handing back a ticket during a trial gives its permit back, or nothing when it is stale. -/
theorem giveBack_goes {r : Run} {i : Nat} {t : Ticket} (ht : r.tickets[i]? = some t)
    {next : TrialPeriod} (hnext : (r.act (.giveBack i)).breaker.phase = .halfOpen next) :
    ∃ trial, r.breaker.phase = .halfOpen trial ∧
      trial.Goes r.breaker.config r.live r.history.period next
        (r.act (.giveBack i)).live (r.act (.giveBack i)).history.period := by
  have hdrop := live_drop ht
  have hgeneration := (r.breaker.release_alike t.permit.generation).generation
  have hperiod : (r.giveBack i t).history.period = r.history.period := by
    apply History.GoesOn.period_eq
    exact Or.inr ⟨_, rfl, rfl, rfl⟩
  have hlive : (r.giveBack i t).live = (r.drop i).live := by
    unfold live
    rw [show (r.giveBack i t).breaker.generation = r.breaker.generation from hgeneration]
    rfl
  rw [act_giveBack ht] at hnext ⊢
  rw [hperiod, hlive]
  have hreleased : (r.breaker.release t.permit.generation).phase = .halfOpen next := hnext
  by_cases hcurrent : t.permit.generation = r.breaker.generation
  · rw [if_pos hcurrent] at hdrop
    cases hphase : r.breaker.phase with
    | closed => simp [Breaker.release, hcurrent, hphase] at hreleased
    | opened period => simp [Breaker.release, hcurrent, hphase] at hreleased
    | halfOpen trial =>
        simp only [Breaker.release, hcurrent, hphase, ne_eq, not_true_eq_false, if_false,
          Phase.halfOpen.injEq] at hreleased
        refine ⟨trial, rfl, ?_⟩
        rw [← hreleased]
        exact .giveBack hdrop
  · rw [if_neg hcurrent] at hdrop
    rw [Breaker.release_stale (Ne.symm hcurrent)] at hreleased
    refine ⟨next, hreleased, ?_⟩
    rw [hdrop]
    exact .idle

/-! ## All acts -/

/-- An act that leaves the circuit half open goes one way on in the trial under way, or it begins a
trial after an open period and goes one way on in it. -/
theorem Sound.act_halfOpen {r : Run} (hr : Sound r) {a : Act} {next : TrialPeriod}
    (hnext : (r.act a).breaker.phase = .halfOpen next) :
    (∃ trial, r.breaker.phase = .halfOpen trial ∧
      (r.act a).breaker.generation = r.breaker.generation ∧
      trial.Goes r.breaker.config r.live r.history.period next
        (r.act a).live (r.act a).history.period) ∨
    (r.breaker.state = .opened ∧
      (TrialPeriod.start r.now r.breaker.config.trialCalls).Goes r.breaker.config 0 [] next
        (r.act a).live (r.act a).history.period) := by
  have hleads := Breaker.check_leads r.breaker r.now
  cases a with
  | wait d => exact Or.inl ⟨next, hnext, rfl, .idle⟩
  | attempt =>
      rw [act_attempt, answer_breaker] at hnext
      obtain ⟨trial, hphase, hgoes⟩ := answer_goes (r := r.adopt (r.breaker.check r.now)) hnext
      rw [show (r.adopt (r.breaker.check r.now)).breaker.config = r.breaker.config from
        hleads.config] at hgoes
      rcases hr.adopt_halfOpen (Breaker.Alike.refl _) hleads hphase with
        ⟨hstayed, hgeneration, hlive, hperiod⟩ | ⟨hopened, hstart, hlive, hperiod⟩
      · rw [hlive, hperiod] at hgoes
        refine Or.inl ⟨trial, hstayed, ?_, hgoes⟩
        rw [act_attempt, answer_breaker]
        exact (Breaker.decideNow_alike _ r.now).generation.trans hgeneration
      · rw [hlive, hperiod, hstart] at hgoes
        exact Or.inr ⟨hopened, hgoes⟩
  | handOver i =>
      have hlive := r.live_handOver i
      refine Or.inl ⟨next, hnext, rfl, ?_⟩
      rw [hlive]
      exact .idle
  | countRejection =>
      refine Or.inl ⟨next, ?_⟩
      simp only [Run.act] at hnext ⊢
      split at hnext
      · rename_i hcount
        rw [if_pos hcount]
        exact ⟨hnext, rfl, .idle⟩
      · rename_i hcount
        rw [if_neg hcount]
        exact ⟨hnext, rfl, .idle⟩
  | settle i how =>
      refine Or.inl ?_
      cases ht : r.tickets[i]? with
      | none =>
          rw [act_settle_none ht] at hnext ⊢
          exact ⟨next, hnext, rfl, .idle⟩
      | some t => exact hr.settle_goes ht how hnext
  | giveBack i =>
      refine Or.inl ?_
      cases ht : r.tickets[i]? with
      | none =>
          rw [act_giveBack_none ht] at hnext ⊢
          exact ⟨next, hnext, rfl, .idle⟩
      | some t =>
          obtain ⟨trial, hphase, hgoes⟩ := giveBack_goes ht hnext
          refine ⟨trial, hphase, ?_, hgoes⟩
          rw [act_giveBack ht]
          exact (r.breaker.release_alike t.permit.generation).generation
  | check =>
      rcases hr.adopt_halfOpen (Breaker.Alike.refl _) hleads hnext with
        ⟨hstayed, hgeneration, hlive, hperiod⟩ | ⟨hopened, hstart, hlive, hperiod⟩
      · refine Or.inl ⟨next, hstayed, hgeneration, ?_⟩
        simp only [Run.act]
        rw [hlive, hperiod]
        exact .idle
      · refine Or.inr ⟨hopened, ?_⟩
        simp only [Run.act]
        rw [hlive, hperiod, hstart]
        exact .idle
  | forceOpen =>
      have hstate : (r.act .forceOpen).breaker.state = .opened := r.breaker.forceOpen_state r.now
      rw [Breaker.state, hnext] at hstate
      cases hstate
  | reset => cases hnext

/-- What holds when a trial begins and is kept by every act within it holds in every half-open
state. -/
theorem Reachable.trial_induction {config : Config} {P : TrialPeriod → Nat → List Outcome → Prop}
    (hstart : ∀ now, P (.start now config.trialCalls) 0 [])
    (hgoes : ∀ {trial next : TrialPeriod} {live after : Nat} {os seen : List Outcome},
      trial.Goes config live os next after seen → P trial live os → P next after seen)
    {r : Run} (hr : Reachable config r) :
    ∀ trial, r.breaker.phase = .halfOpen trial → P trial r.live r.history.period := by
  refine hr.induction (P := fun r => ∀ trial, r.breaker.phase = .halfOpen trial →
    P trial r.live r.history.period) ?_ ?_
  · intro name draws instant trial hphase
    cases hphase
  · intro r a hr ih next hnext
    rcases hr.sound.act_halfOpen hnext with ⟨trial, hphase, _, hwithin⟩ | ⟨_, hwithin⟩
    · rw [hr.config_eq] at hwithin
      exact hgoes hwithin (ih trial hphase)
    · rw [hr.config_eq] at hwithin
      exact hgoes hwithin (hstart r.now)

/-- Every half-open circuit counts the outcomes accepted in the trial. -/
theorem Reachable.counted {config : Config} {r : Run} (hr : Reachable config r) :
    ∀ trial, r.breaker.phase = .halfOpen trial →
      trial.Counted config.slowMillis r.history.period :=
  hr.trial_induction (P := fun trial _ os => trial.Counted config.slowMillis os)
    (fun _ => ⟨rfl, rfl, rfl⟩) fun hgoes h => hgoes.counted h

/-- The books of every half-open circuit are balanced. -/
theorem Reachable.balanced {config : Config} {r : Run} (hvalid : config.Valid)
    (hr : Reachable config r) :
    ∀ trial, r.breaker.phase = .halfOpen trial →
      trial.Balanced config r.live r.history.period :=
  hr.trial_induction (P := fun trial live os => trial.Balanced config live os)
    (TrialPeriod.balanced_start hvalid.trialCalls) fun hgoes h => hgoes.balanced h

end Run

end FailFast
