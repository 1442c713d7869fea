import FailFast.Proofs.Rates
import FailFast.Proofs.Run.Reference

/-!
# Failures that open the circuit

A count window forgets by counting, not by the clock.  After as many failures as it holds nothing
else is left in it, whatever it showed before; the minimum of an accepted configuration is then
reached, and so is the threshold, which is at most the rate of calls that all failed.  A closed
circuit with a count window therefore opens no later than on that failure, unless it is reset first.

Main results:

- Theorem `Run.Reachable.follows`: a count window follows the history also when the clock wraps.
- Theorem `Run.Failing.idle` and theorem `Run.Failing.accepted`: what one act makes of a closed
  circuit whose last outcomes all failed.
- Theorem `Run.failures_open_count_window`: enough failures open a closed circuit, and there are
  enough to be had.
-/

namespace FailFast

/-! ## Windows that only count -/

namespace Window

variable {config : Config} {now : Nat} {os : List Outcome} {w : Window}

/-- What a count window follows does not depend on the reading. -/
theorem Follows.anytime (h : Follows config now os w) (hkind : config.windowKind = .countBased)
    (other : Nat) : Follows config other os w := by
  cases h with
  | lastCalls _ hsize hslow hw => exact .lastCalls hkind hsize hslow hw
  | lastMillis htimed _ _ _ =>
      rw [hkind] at htimed
      cases htimed

/-- Nor does it depend on timestamps what a count window follows next. -/
theorem Follows.recordLast (h : Follows config now os w) (hkind : config.windowKind = .countBased)
    (o : Outcome) : Follows config now (os ++ [o]) (w.record now o) := by
  cases h with
  | lastCalls _ hsize hslow hw => exact .lastCalls hkind hsize hslow (hw.record o)
  | lastMillis htimed _ _ _ =>
      rw [hkind] at htimed
      cases htimed

end Window

/-- A count window of the size of a list shows of any outcomes that end with it just the list. -/
theorem Config.visible_append {config : Config} (hkind : config.windowKind = .countBased)
    (now : Nat) (before : List Outcome) {os : List Outcome} (hsize : os.length = config.windowSize) :
    config.visible now (before ++ os) = os := by
  have hgone : (before ++ os).length - config.windowSize = before.length := by
    rw [List.length_append]
    omega
  simp only [visible, hkind, hgone, List.drop_left]

/-- The counts of outcomes that all failed are all of them. -/
theorem Counts.failures_ofOutcomes (slowAt : Nat) {os : List Outcome}
    (hfailed : ∀ o ∈ os, o.succeeded = false) :
    (ofOutcomes slowAt os).failures = (ofOutcomes slowAt os).total := by
  apply List.countP_eq_length.mpr
  intro o ho
  rw [hfailed o ho]
  rfl

namespace Run

/-- The window of a configuration that counts calls follows the history in every run. -/
theorem Reachable.follows {config : Config} {r : Run} (hr : Reachable config r)
    (hkind : config.windowKind = .countBased) (now : Nat) :
    Window.Follows config now r.history.reference r.breaker.window := by
  refine hr.induction (P := fun r => ∀ now,
    Window.Follows config now r.history.reference r.breaker.window) ?_ ?_ now
  · intro name draws instant now
    exact Window.window_follows config now
  · intro r a hr ih now
    have hafter : Window.Follows config r.now (r.history.reference ++ (r.accepts? a).toList)
        (r.windowAfter a) := by
      unfold windowAfter
      cases r.accepts? a with
      | none =>
          rw [Option.toList_none, List.append_nil]
          exact ih r.now
      | some o => exact (ih r.now).recordLast hkind o
    rcases hr.sound.act_window a with ⟨hwindow, hreference⟩ | ⟨hwindow, hreference⟩
    · rw [hwindow, hreference]
      exact hafter.anytime hkind now
    · rw [hwindow, hreference]
      exact hafter.clear.anytime hkind now

/-! ## Closed circuits -/

section Closed

variable {r : Run} {a : Act} (hr : Sound r) (hclosed : r.breaker.phase = .closed)

include hr hclosed

/-- As long as a closed circuit is not reset, only outcomes that count are added to the
reference. -/
theorem Sound.reference_of_none (hnone : r.accepts? a = none) (hforce : a ≠ .forceOpen)
    (hreset : a ≠ .reset) : (r.act a).history.reference = r.history.reference := by
  cases hr.act_effect a with
  | quiet _ _ _ hhistory => exact hhistory.reference_eq
  | due _ _ _ hhistory =>
      rw [hhistory.reference_eq, Breaker.check_closed hclosed]
      rfl
  | accepted mark o haccepts =>
      rw [hnone] at haccepts
      cases haccepts
  | forced ha => exact absurd ha hforce
  | cleared ha => exact absurd ha hreset

/-- An outcome that does not trip a closed circuit is added, and the circuit stays closed. -/
theorem Sound.closed_of_untripped {o : Outcome} (haccepts : r.accepts? a = some o)
    (htrips : ¬ (r.breaker.recorded r.now o).trips r.now = true) :
    (r.act a).breaker.phase = .closed ∧
      (r.act a).history.reference = r.history.reference ++ [o] := by
  have hstays : r.breaker.complete r.now r.breaker.generation o =
      (r.breaker.recorded r.now o).stays := by
    rw [Breaker.complete_closed rfl hclosed, if_neg htrips]
  have hstate : (r.breaker.recorded r.now o).state = .closed :=
    (r.breaker.recorded_alike r.now o).state.trans (Breaker.state_eq_closed_iff.mpr hclosed)
  cases hr.act_effect a with
  | accepted mark p hp hsame hbreaker hhistory =>
      obtain rfl : p = o := Option.some.inj (hp.symm.trans haccepts)
      constructor
      · rw [hbreaker, hstays]
        exact Breaker.state_eq_closed_iff.mp hstate
      · rw [hhistory, hstays]
        refine (r.history.reference_settled mark p).trans ?_
        rw [hsame]
        rfl
  | quiet hnone =>
      rw [hnone] at haccepts
      cases haccepts
  | due hnone =>
      rw [hnone] at haccepts
      cases haccepts
  | forced ha =>
      subst ha
      cases haccepts
  | cleared ha =>
      subst ha
      cases haccepts

end Closed

/-- A call that is admitted to a closed circuit and fails at once counts. -/
theorem accepts_failure {r : Run} (hclosed : r.breaker.phase = .closed) :
    ∃ o, (r.act .attempt).accepts? (.settle 0 .failed) = some o ∧ o.succeeded = false := by
  have hgranted : r.act .attempt = r.answer (.granted r.breaker.generation) := by
    simp [act, Breaker.attempt, Breaker.check_closed hclosed, Breaker.stays, Breaker.decideNow,
      hclosed, adopt]
  rw [hgranted]
  refine ⟨_, (accepts?_settle rfl .failed).trans (if_neg ?_), rfl⟩
  simp [answer, History.changedSince, History.since]

/-! ## Outcomes that failed -/

/-- A closed circuit of which the last outcomes that count, of a number, all failed. -/
structure Failing (config : Config) (n : Nat) (r : Run) : Prop where
  reachable : Reachable config r
  closed : r.breaker.phase = .closed
  failed : ∃ before os, r.history.reference = before ++ os ∧ os.length = n ∧
    ∀ o ∈ os, o.succeeded = false

namespace Failing

variable {config : Config} {n : Nat} {r : Run} {a : Act} (h : Failing config n r)

include h

/-- An act that reports no outcome that counts leaves the circuit so. -/
theorem idle (hnone : r.accepts? a = none) (hforce : a ≠ .forceOpen) (hreset : a ≠ .reset) :
    Failing config n (r.act a) where
  reachable := h.reachable.acts [a]
  closed := Breaker.state_eq_closed_iff.mp
    (h.reachable.sound.closed_of_none h.closed hnone hforce)
  failed := by
    rw [h.reachable.sound.reference_of_none h.closed hnone hforce hreset]
    exact h.failed

/-- A failure that leaves no place for other outcomes in the window trips the circuit. -/
theorem trips (hvalid : config.Valid) (hkind : config.windowKind = .countBased) {o : Outcome}
    (ho : o.succeeded = false) (hfull : n + 1 = config.windowSize) :
    (r.breaker.recorded r.now o).trips r.now = true := by
  rcases h.failed with ⟨before, os, hreference, hlength, hfailed⟩
  have hmore : ∀ p ∈ os ++ [o], p.succeeded = false :=
    List.forall_mem_append.mpr ⟨hfailed, List.forall_mem_singleton.mpr ho⟩
  have hsize : (os ++ [o]).length = config.windowSize := by
    rw [List.length_append, hlength]
    exact hfull
  have hfollows := (h.reachable.follows hkind r.now).recordLast hkind o
  rw [hreference, List.append_assoc] at hfollows
  rw [Window.Follows.trips_iff (b := r.breaker.recorded r.now o) hfollows h.reachable.config_eq,
    Config.visible_append hkind r.now before hsize]
  refine ⟨?_, hvalid.breached_of_failures (Counts.failures_ofOutcomes _ hmore) ?_⟩
  · rw [hsize]
    exact hvalid.minimumFits hkind
  · exact Nat.lt_of_lt_of_eq hvalid.windowSize hsize.symm

/-- One more failure opens the circuit, or it is one more failure and there is place for others. -/
theorem accepted (hvalid : config.Valid) (hkind : config.windowKind = .countBased) {o : Outcome}
    (haccepts : r.accepts? a = some o) (ho : o.succeeded = false) (hn : n < config.windowSize) :
    (r.act a).breaker.state = .opened ∨
      (n + 1 < config.windowSize ∧ Failing config (n + 1) (r.act a)) := by
  by_cases htrips : (r.breaker.recorded r.now o).trips r.now = true
  · left
    exact (h.reachable.opens_iff_trips h.closed haccepts).mpr htrips
  · right
    have hroom : n + 1 ≠ config.windowSize := fun hfull =>
      htrips (h.trips hvalid hkind ho hfull)
    rcases h.reachable.sound.closed_of_untripped h.closed haccepts htrips with
      ⟨hclosed, hafter⟩
    rcases h.failed with ⟨before, os, hreference, hlength, hfailed⟩
    refine ⟨by omega, h.reachable.acts [a], hclosed, before, os ++ [o], ?_, ?_, ?_⟩
    · rw [hafter, hreference, List.append_assoc]
    · rw [List.length_append, hlength]
      rfl
    · exact List.forall_mem_append.mpr ⟨hfailed, List.forall_mem_singleton.mpr ho⟩

end Failing

/-! ## Runs of failures -/

/-- The outcomes that count of several acts, oldest first. -/
def accepted (r : Run) : List Act → List Outcome
  | [] => []
  | a :: rest => (r.accepts? a).toList ++ (r.act a).accepted rest

namespace Failing

variable {config : Config} (hvalid : config.Valid) (hkind : config.windowKind = .countBased)

include hvalid hkind

/-- A closed circuit opens while the outcomes that count are failures, before there are more of them
than the window holds. -/
theorem opens {n : Nat} {r : Run} (h : Failing config n r) (hn : n < config.windowSize)
    {as : List Act} (hforce : .forceOpen ∉ as) (hreset : .reset ∉ as)
    (henough : config.windowSize ≤ n + (r.accepted as).length)
    (hfail : ∀ o ∈ (r.accepted as).take (config.windowSize - n), o.succeeded = false) :
    ∃ k, n + (r.accepted (as.take k)).length ≤ config.windowSize ∧
      (r.acts (as.take k)).breaker.state = .opened := by
  induction as generalizing r n with
  | nil =>
      simp only [Run.accepted, List.length_nil, Nat.add_zero] at henough
      omega
  | cons a rest ih =>
      rw [List.mem_cons, not_or] at hforce hreset
      cases haccepts : r.accepts? a with
      | none =>
          have hnone : r.accepted (a :: rest) = (r.act a).accepted rest := by
            simp [Run.accepted, haccepts]
          rw [hnone] at henough hfail
          have hidle := h.idle haccepts (Ne.symm hforce.1) (Ne.symm hreset.1)
          rcases ih hidle hn hforce.2 hreset.2 henough hfail with ⟨k, hcount, hopened⟩
          refine ⟨k + 1, ?_, hopened⟩
          simpa [Run.accepted, haccepts] using hcount
      | some o =>
          have hsome : r.accepted (a :: rest) = o :: (r.act a).accepted rest := by
            simp [Run.accepted, haccepts]
          have htake : config.windowSize - n = config.windowSize - (n + 1) + 1 := by omega
          rw [hsome, List.length_cons] at henough
          rw [hsome, htake, List.take_succ_cons] at hfail
          have ho : o.succeeded = false := hfail o List.mem_cons_self
          rcases h.accepted hvalid hkind haccepts ho hn with hopened | ⟨hroom, hnext⟩
          · refine ⟨1, ?_, hopened⟩
            simp only [List.take_succ_cons, List.take_zero, Run.accepted, haccepts,
              Option.toList_some, List.append_nil, List.length_singleton]
            exact hn
          · have hfewer : config.windowSize ≤ n + 1 + ((r.act a).accepted rest).length := by omega
            rcases ih hnext hroom hforce.2 hreset.2 hfewer
              (fun p hp => hfail p (List.mem_cons_of_mem o hp)) with ⟨k, hcount, hopened⟩
            refine ⟨k + 1, ?_, hopened⟩
            simp only [List.take_succ_cons, Run.accepted, haccepts, Option.toList_some,
              List.singleton_append, List.length_cons]
            omega

/-- A call that fails at once is one more failure. -/
theorem call {n : Nat} {r : Run} (h : Failing config n r) (hn : n < config.windowSize) :
    (r.acts [.attempt, .settle 0 .failed]).breaker.state = .opened ∨
      (n + 1 < config.windowSize ∧
        Failing config (n + 1) (r.acts [.attempt, .settle 0 .failed])) := by
  rcases accepts_failure h.closed with ⟨o, haccepts, ho⟩
  have hadmitted := h.idle (a := .attempt) rfl (by decide) (by decide)
  exact hadmitted.accepted hvalid hkind haccepts ho hn

/-- Callers can open a closed circuit by calls that fail, as many as the window has place for. -/
theorem openable {n m : Nat} {r : Run} (h : Failing config n r)
    (hm : n + (m + 1) = config.windowSize) :
    ∃ as, .forceOpen ∉ as ∧ .reset ∉ as ∧ (r.acts as).breaker.state = .opened := by
  induction m generalizing r n with
  | zero =>
      rcases h.call hvalid hkind (by omega) with hopened | ⟨hroom, _⟩
      · exact ⟨_, by decide, by decide, hopened⟩
      · omega
  | succ m ih =>
      rcases h.call hvalid hkind (by omega) with hopened | ⟨_, hnext⟩
      · exact ⟨_, by decide, by decide, hopened⟩
      · rcases ih hnext (by omega) with ⟨as, hforce, hreset, hopened⟩
        refine ⟨[.attempt, .settle 0 .failed] ++ as, ?_, ?_, ?_⟩
        · simp [hforce]
        · simp [hreset]
        · rw [acts_append]
          exact hopened

end Failing

/-- A closed circuit that counts calls opens when enough calls fail, without help by hand: whatever
its window holds, it has opened at the latest when as many failures have counted as the window can
hold.  And callers can make that happen. -/
theorem failures_open_count_window {config : Config} {r : Run} (hvalid : config.Valid)
    (hkind : config.windowKind = .countBased) (hr : Reachable config r)
    (hclosed : r.breaker.state = .closed) :
    (∀ as, .forceOpen ∉ as → .reset ∉ as → config.windowSize ≤ (r.accepted as).length →
      (∀ o ∈ (r.accepted as).take config.windowSize, o.succeeded = false) →
      ∃ k, (r.accepted (as.take k)).length ≤ config.windowSize ∧
        (r.acts (as.take k)).breaker.state = .opened) ∧
    ∃ as, .forceOpen ∉ as ∧ .reset ∉ as ∧ (r.acts as).breaker.state = .opened := by
  have hnone : Failing config 0 r := by
    refine ⟨hr, Breaker.state_eq_closed_iff.mp hclosed, r.history.reference, [], ?_, rfl, ?_⟩
    · exact (List.append_nil _).symm
    · exact List.forall_mem_nil _
  have hsize := hvalid.windowSize
  constructor
  · intro as hforce hreset henough hfail
    rw [← Nat.zero_add (r.accepted as).length] at henough
    rw [← Nat.sub_zero config.windowSize] at hfail
    rcases hnone.opens hvalid hkind hsize hforce hreset henough hfail with ⟨k, hcount, hopened⟩
    rw [Nat.zero_add] at hcount
    exact ⟨k, hcount, hopened⟩
  · have hall : 0 + (config.windowSize - 1 + 1) = config.windowSize := by omega
    exact hnone.openable hvalid hkind hall

end Run

/-- A configuration under which two calls in a row must fail to open the circuit. -/
def Config.strict : Config :=
  { Config.brief with
    failureRate := .ofNat 100
    minimumCalls := 2 }

theorem Config.strict_valid : Config.strict.Valid :=
  { brief_valid with
    failureRate := by decide +kernel
    minimumCalls := by decide
    minimumFits := fun _ => by decide }

namespace Run

/-- Two calls succeeded there, so that the window is full of successes, and two more still run. -/
def spotless : Run :=
  (start "db" .strict .halves 0).acts
    [.attempt, .attempt, .attempt, .attempt, .settle 0 .succeeded, .settle 0 .succeeded]

/-- One failure of the two does not open the circuit, and the other one, a timeout, does. -/
theorem two_failures_open_strict :
    (spotless.act (.settle 0 .failed)).breaker.state = .closed ∧
    ∃ k, (spotless.acts ([.settle 0 .failed, .settle 0 .timedOut].take k)).breaker.state =
      .opened := by
  have hreachable : spotless.Reachable .strict := (Reachable.start "db" .strict .halves 0).acts _
  have hopens := (failures_open_count_window Config.strict_valid rfl hreachable
    (by decide +kernel)).1
    [.settle 0 .failed, .settle 0 .timedOut] (by decide) (by decide) (by decide +kernel)
    (by decide +kernel)
  rcases hopens with ⟨k, _, hopened⟩
  exact ⟨by decide +kernel, k, hopened⟩

end Run

end FailFast
