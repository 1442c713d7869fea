import FailFast.Proofs.Run.Stale
import FailFast.Proofs.Window

/-!
# The window and the history

As long as the clock does not wrap, what the window shows can be read off the history: it is what is
visible of the outcomes accepted since the circuit last began to judge afresh.  Nothing of an
earlier period is left in it, no stale outcome got into it, and none that is visible was dropped.
So the decision to open a closed circuit can be read off the history too.

Main results:

- Theorem `Run.Reachable.faithful`: the window follows the history in every run.
- Theorem `Run.opens_iff_reference_breached`: what the window shows and counts, and when a closed
  circuit opens.
-/

namespace FailFast

/-- A window that follows some outcomes trips the circuit when enough of them are visible and a rate
of the visible ones reaches its threshold. -/
theorem Window.Follows.trips_iff {config : Config} {b : Breaker} {now : Nat} {os : List Outcome}
    (h : Follows config now os b.window) (hconfig : b.config = config) :
    b.trips now = true ↔
      config.minimumCalls ≤ (config.visible now os).length ∧
      config.breached (Counts.ofOutcomes config.slowMillis (config.visible now os)) = true := by
  have htotal : (Counts.ofOutcomes config.slowMillis (config.visible now os)).total =
      (config.visible now os).length := rfl
  simp only [Breaker.trips, hconfig, h.counts_eq, Bool.and_eq_true, decide_eq_true_eq, htotal]

namespace Run

/-! ## The invariant -/

/-- The window follows the outcomes accepted since the circuit last began to judge afresh, and none
of them is stamped later than the reading. -/
structure Faithful (config : Config) (r : Run) : Prop where
  window : Window.Follows config r.now r.history.reference r.breaker.window
  past : ∀ o ∈ r.history.reference, o.timestamp ≤ r.now

/-- With an outcome that counts the window follows the history with that outcome. -/
theorem Faithful.windowAfter {config : Config} {r : Run} (h : Faithful config r) (a : Act) :
    Window.Follows config r.now (r.history.reference ++ (r.accepts? a).toList)
      (r.windowAfter a) := by
  unfold Run.windowAfter
  cases haccepts : r.accepts? a with
  | none =>
      simp only [Option.toList_none, List.append_nil]
      exact h.window
  | some o => exact h.window.record (timestamp_of_accepts? haccepts) h.past

/-- Every act keeps the window faithful until the clock wraps. -/
theorem Faithful.act {config : Config} {r : Run} (h : Faithful config r) (hr : Sound r) (a : Act)
    (hclock : (r.act a).Unwrapped) : Faithful config (r.act a) := by
  have hlater := hclock.now_le
  rcases hr.act_window a with ⟨hwindow, hreference⟩ | ⟨hwindow, hreference⟩
  · constructor
    · rw [hwindow, hreference]
      exact (h.windowAfter a).later hlater
    · intro o ho
      rw [hreference, List.mem_append, Option.mem_toList] at ho
      rcases ho with ho | ho
      · exact Nat.le_trans (h.past o ho) hlater
      · rw [timestamp_of_accepts? ho]
        exact hlater
  · constructor
    · rw [hwindow, hreference]
      exact ((h.windowAfter a).later hlater).clear
    · intro o ho
      rw [hreference] at ho
      cases ho

/-- The window follows the history in every run whose clock has not wrapped. -/
theorem Reachable.faithful {config : Config} {r : Run} (hr : Reachable config r)
    (hclock : r.Unwrapped) : Faithful config r := by
  refine hr.induction (P := fun r => r.Unwrapped → Faithful config r) ?_ ?_ hclock
  · intro name draws instant _
    refine ⟨Window.window_follows config _, ?_⟩
    intro o ho
    cases ho
  · intro r a hr ih hclock
    exact (ih hclock.before).act hr.sound a hclock

/-! ## The decision to open -/

/-- With one more outcome the window shows and counts what is visible of the history with it. -/
theorem Faithful.trips_iff {config : Config} {r : Run} (h : Faithful config r) {o : Outcome}
    (hstamp : o.timestamp = r.now) (hconfig : r.breaker.config = config) :
    (r.breaker.recorded r.now o).trips r.now = true ↔
      config.minimumCalls ≤ (config.visible r.now (r.history.reference ++ [o])).length ∧
      config.breached (Counts.ofOutcomes config.slowMillis
        (config.visible r.now (r.history.reference ++ [o]))) = true :=
  (h.window.record hstamp h.past).trips_iff hconfig

/-- A closed circuit stays so in every act but a forced opening and an outcome that counts. -/
theorem Sound.closed_of_none {r : Run} (hr : Sound r) (hclosed : r.breaker.phase = .closed)
    {a : Act} (hnone : r.accepts? a = none) (ha : a ≠ .forceOpen) :
    (r.act a).breaker.state = .closed := by
  have hstate : r.breaker.state = .closed := Breaker.state_eq_closed_iff.mpr hclosed
  cases hr.act_effect a with
  | quiet _ hbreaker => exact hbreaker.state.trans hstate
  | due _ hbreaker =>
      rw [Breaker.check_closed hclosed] at hbreaker
      exact hbreaker.state.trans hstate
  | accepted mark o haccepts =>
      rw [hnone] at haccepts
      cases haccepts
  | forced hforced => exact absurd hforced ha
  | cleared _ hbreaker =>
      rw [hbreaker]
      rfl

/-- A closed circuit opens on an outcome that counts exactly when the visible outcomes trip it. -/
theorem Reachable.opens_iff_trips {config : Config} {r : Run} (hr : Reachable config r)
    (hclosed : r.breaker.phase = .closed) {a : Act} {o : Outcome}
    (haccepts : r.accepts? a = some o) :
    (r.act a).breaker.state = .opened ↔ (r.breaker.recorded r.now o).trips r.now = true := by
  have hcomplete := Breaker.complete_closed rfl hclosed r.now o
  rw [(hr.sound.act_accepted haccepts).1, hcomplete]
  by_cases htrips : (r.breaker.recorded r.now o).trips r.now = true
  · rw [if_pos htrips]
    exact ⟨fun _ => htrips, fun _ => rfl⟩
  · rw [if_neg htrips]
    have hstays : (r.breaker.recorded r.now o).state = .closed :=
      (r.breaker.recorded_alike r.now o).state.trans (Breaker.state_eq_closed_iff.mpr hclosed)
    constructor
    · intro hopened
      have hboth : State.closed = State.opened := hstays.symm.trans hopened
      cases hboth
    · intro h
      exact absurd h htrips

/-- Until the clock wraps, the window shows and counts what is visible of the outcomes accepted
since the circuit was made, reset, half opened or closed.  A closed circuit opens when it is forced
open, or on an outcome that counts, if with it enough outcomes are visible and a rate of the visible
ones reaches its threshold; nothing else opens it. -/
theorem opens_iff_reference_breached {config : Config} {r : Run} (hr : Reachable config r)
    (hclock : r.Unwrapped) :
    r.breaker.window.outcomes r.now = config.visible r.now r.history.reference ∧
    (r.breaker.metrics r.now).counts =
      Counts.ofOutcomes config.slowMillis (config.visible r.now r.history.reference) ∧
    (r.breaker.state = .closed → ∀ a,
      ((r.act a).breaker.state = .opened ↔
        a = .forceOpen ∨ ∃ o, r.accepts? a = some o ∧
          config.minimumCalls ≤ (config.visible r.now (r.history.reference ++ [o])).length ∧
          config.breached (Counts.ofOutcomes config.slowMillis
            (config.visible r.now (r.history.reference ++ [o]))) = true)) := by
  have hfaithful := hr.faithful hclock
  refine ⟨hfaithful.window.outcomes_eq, hfaithful.window.counts_eq, ?_⟩
  intro hstate a
  have hclosed : r.breaker.phase = .closed := by
    cases hphase : r.breaker.phase with
    | closed => rfl
    | opened period => simp [Breaker.state, hphase, Phase.state] at hstate
    | halfOpen trial => simp [Breaker.state, hphase, Phase.state] at hstate
  constructor
  · intro hopened
    by_cases hforced : a = .forceOpen
    · exact Or.inl hforced
    · cases haccepts : r.accepts? a with
      | none =>
          rw [hr.sound.closed_of_none hclosed haccepts hforced] at hopened
          cases hopened
      | some o =>
          have htrips := (hr.opens_iff_trips hclosed haccepts).mp hopened
          have hstamp := timestamp_of_accepts? haccepts
          exact Or.inr ⟨o, rfl, (hfaithful.trips_iff hstamp hr.config_eq).mp htrips⟩
  · intro hcause
    rcases hcause with rfl | ⟨o, haccepts, hbreached⟩
    · exact r.breaker.forceOpen_state r.now
    · apply (hr.opens_iff_trips hclosed haccepts).mpr
      exact (hfaithful.trips_iff (timestamp_of_accepts? haccepts) hr.config_eq).mpr hbreached

/-- A circuit judges the calls of the last two seconds; one succeeded longer ago, and another call
still runs. -/
def aged : Run :=
  (start "db" { Config.brief with windowKind := .timeBased } .halves 0).acts
    [.attempt, .settle 0 .succeeded, .wait (.ofMillis 2000), .attempt]

/-- The success is not visible any more, and the circuit opens when the running call fails. -/
theorem aged_opens_on_failure :
    aged.breaker.window.outcomes aged.now = [] ∧
    (aged.act (.settle 0 .failed)).breaker.state = .opened := by
  have hreachable : aged.Reachable { Config.brief with windowKind := .timeBased } :=
    (Reachable.start _ _ .halves 0).acts _
  have hclock : aged.Unwrapped := by
    unfold Unwrapped
    decide +kernel
  have hopens := opens_iff_reference_breached hreachable hclock
  refine ⟨hopens.1.trans (by decide +kernel), ?_⟩
  apply (hopens.2.2 (by decide +kernel) _).mpr
  exact Or.inr ⟨.failure 0 2000, by decide +kernel, by decide +kernel, by decide +kernel⟩

end Run

end FailFast
