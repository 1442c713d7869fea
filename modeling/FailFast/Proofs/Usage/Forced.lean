import Mathlib.Data.List.Induction
import FailFast.Proofs.Usage.OpenPeriod
import FailFast.Proofs.Usage.Sweeping

/-!
# Circuits that are forced open

An operator who forces a circuit open marks its open period, whether that begins now or had begun
before.  No wait ends a marked period, and no permit is live in it, so nothing but a reset leads out
of it.  A reset leaves no mark behind: the periods that begin later, by an outcome or at the
deadline of a trial, end like all others.

Main results:

- Theorem `Usage.isForced_use`: only forcing sets the mark and only a reset takes it away.
- Theorem `Usage.use_forced`: nothing but a reset changes a forced circuit.
- Theorem `Usage.forced_until_reset`: a circuit that was forced open is held open until it is reset.
-/

namespace FailFast

/-- No number of milliseconds is the longest duration. -/
theorem Duration.ofMillis_ne_longest (ms : Nat) : Duration.ofMillis ms ≠ .longest := by
  intro hsame
  have hnanos : ms * 1000000 = 18446744073709551616000000000 - 1 :=
    congrArg Duration.nanos hsame
  omega

/-! ## The mark -/

namespace Breaker

variable (b : Breaker)

/-- A breaker that is forced open is in a marked open period. -/
theorem phase_of_isForced {b : Breaker} (hforced : b.isForced = true) :
    ∃ period, b.phase = .opened period ∧ period.forced = true := by
  unfold isForced at hforced
  cases hphase : b.phase with
  | opened period =>
      rw [hphase] at hforced
      exact ⟨period, rfl, hforced⟩
  | closed => simp [hphase] at hforced
  | halfOpen trial => simp [hphase] at hforced

/-- So it is open. -/
theorem state_of_isForced {b : Breaker} (hforced : b.isForced = true) : b.state = .opened := by
  obtain ⟨period, hphase, _⟩ := phase_of_isForced hforced
  rw [state, hphase]
  rfl

/-- Time neither sets the mark nor takes it away. -/
theorem check_isForced (now : Nat) : (b.check now).breaker.isForced = b.isForced := by
  unfold check
  cases hphase : b.phase with
  | closed => rfl
  | opened period =>
      dsimp only
      split
      · rename_i hwaited
        have hunforced : period.forced = false := by
          simp only [waited, Bool.and_eq_true, Bool.not_eq_true'] at hwaited
          exact hwaited.1
        simp only [isForced, hphase, hunforced]
        rfl
      · rfl
  | halfOpen trial =>
      dsimp only
      split
      · simp only [isForced, hphase]
        rfl
      · rfl

/-- Neither does the decision on an attempt. -/
theorem decideNow_isForced (now : Nat) : (b.decideNow now).1.isForced = b.isForced := by
  unfold decideNow
  cases hphase : b.phase with
  | closed => rfl
  | opened period => rfl
  | halfOpen trial =>
      dsimp only
      split
      · simp only [isForced, hphase]
        rfl
      · rfl

/-- Nor the return of a permit. -/
theorem release_isForced (generation : Nat) : (b.release generation).isForced = b.isForced := by
  unfold release
  split
  · rfl
  · cases hphase : b.phase with
    | closed => rfl
    | opened period => rfl
    | halfOpen trial => simp only [isForced, hphase]

/-- Nor the record of an outcome. -/
theorem recorded_isForced (now : Nat) (o : Outcome) :
    (b.recorded now o).isForced = b.isForced := by
  unfold isForced recorded
  cases b.phase <;> rfl

/-- Nor does the end of a call whose permit is not live while the circuit is open. -/
theorem settle_isForced (now : Nat) {p : Permit} (o : Option Outcome)
    (hstale : b.state = .opened → b.generation ≠ p.generation) :
    (b.settle now p o).breaker.isForced = b.isForced := by
  cases o with
  | none => exact b.release_isForced p.generation
  | some o =>
      rw [settle]
      by_cases hlive : b.generation = p.generation
      · cases hphase : b.phase with
        | opened period =>
            exact absurd hlive (hstale (by simp [state, hphase, Phase.state]))
        | closed =>
            have hbefore : b.isForced = false := by
              simp [isForced, hphase]
            rw [complete_closed hlive hphase, hbefore]
            split
            · rfl
            · exact (b.recorded_isForced now o).trans hbefore
        | halfOpen trial =>
            have hbefore : b.isForced = false := by
              simp [isForced, hphase]
            rw [complete_halfOpen hlive hphase, hbefore]
            rcases judge_cases (b.recorded now o) (trial.count b.config.slowMillis o) now with
              ⟨_, hverdict⟩ | ⟨_, _, hverdict⟩ | ⟨_, _, hverdict⟩
            · rw [hverdict]
              split <;> rfl
            · rw [hverdict]
              rfl
            · rw [hverdict]
              exact (b.recorded_isForced now o).trans hbefore
      · rw [complete_stale hlive]
        rfl

/-- A breaker that is forced open stays as it is, whatever the time. -/
theorem check_forced {b : Breaker} (hforced : b.isForced = true) (now : Nat) :
    b.check now = b.stays := by
  obtain ⟨period, hphase, hmark⟩ := phase_of_isForced hforced
  exact check_waiting hphase (waited_of_forced hmark now)

/-- It refuses every attempt and names the longest time. -/
theorem attempt_forced {b : Breaker} (hforced : b.isForced = true) (now : Nat) :
    b.attempt now = (b.stays, .rejected .opened .longest) := by
  obtain ⟨period, hphase, hmark⟩ := phase_of_isForced hforced
  rw [attempt_waiting hphase (waited_of_forced hmark now), openRetry, if_pos hmark]

/-- Forcing it open again does nothing. -/
theorem forceOpen_forced {b : Breaker} (hforced : b.isForced = true) (now : Nat) :
    b.forceOpen now = b.stays := by
  obtain ⟨period, hphase, hmark⟩ := phase_of_isForced hforced
  obtain ⟨name, config, window, phase, generation, changedAt, rejections, draws⟩ := b
  obtain ⟨since, wait, forced⟩ := period
  cases (show phase = _ from hphase)
  cases (show forced = true from hmark)
  rfl

end Breaker

namespace Usage

section Mark

variable {config : Config} {u : Usage} (hu : u.Reachable config)
  (hpassive : u.circuit.callbacks.IsPassive)

include hu hpassive

/-- Only forcing the circuit open sets the mark, and only a reset takes it away. -/
theorem isForced_use (x : Use) :
    (u.use x).circuit.breaker.isForced =
      if x = .forceOpen then true
      else if x = .reset then false
      else u.circuit.breaker.isForced := by
  have hsettles : ∀ i, x.permit? = some i →
      (u.use x).circuit.breaker.isForced = u.circuit.breaker.isForced := by
    intro i hx
    cases hp : u.permits[i]? with
    | none => rw [use, step_settle_none hpassive hx hp]
    | some p =>
        obtain ⟨told, hstep, _⟩ := step_settle hpassive hx hp
        rw [use, hstep]
        apply Breaker.settle_isForced
        intro hopened
        exact hu.allStale hopened p (List.mem_of_getElem? hp)
  cases x with
  | wait d => rfl
  | acquire =>
      rw [use, step_acquire hpassive, Breaker.attempt]
      have hkept : ((u.circuit.breaker.check u.now).breaker.decideNow u.now).1.isForced =
          u.circuit.breaker.isForced :=
        (Breaker.decideNow_isForced _ _).trans (Breaker.check_isForced _ _)
      cases hverdict : ((u.circuit.breaker.check u.now).breaker.decideNow u.now).2 with
      | granted generation =>
          simp only [hverdict]
          exact hkept
      | rejected state retryAfter =>
          simp only [hverdict]
          exact hkept
  | check =>
      rw [use, step_check hpassive]
      exact u.circuit.breaker.check_isForced u.now
  | forceOpen =>
      rw [use, step_forceOpen hpassive]
      exact u.circuit.breaker.forceOpen_isForced u.now
  | reset =>
      rw [use, step_reset hpassive]
      rfl
  | complete i how => exact hsettles i rfl
  | timeOut i timeout => exact hsettles i rfl
  | fault i fault => exact hsettles i rfl
  | release i => exact hsettles i rfl

/-- Nothing but a reset changes a circuit that is forced open: its breaker only counts the attempts,
and there is no transition. -/
theorem use_forced (hforced : u.circuit.breaker.isForced = true) {x : Use}
    (hx : x ≠ .reset) :
    (u.use x).circuit.breaker = u.circuit.breaker.refused ([x].count .acquire) ∧
      (u.notes x).transitions = [] := by
  have hsettles : ∀ i, x.permit? = some i →
      (u.use x).circuit.breaker = u.circuit.breaker ∧ (u.notes x).transitions = [] := by
    intro i hi
    cases hp : u.permits[i]? with
    | none =>
        rw [use, notes, step_settle_none hpassive hi hp]
        exact ⟨rfl, rfl⟩
    | some p =>
        have hstale := hu.allStale (Breaker.state_of_isForced hforced) p (List.mem_of_getElem? hp)
        obtain ⟨told, hstep, htold⟩ := step_settle hpassive hi hp
        rw [settled, Breaker.settle_stale hstale] at hstep htold
        rw [use, notes, hstep]
        exact ⟨rfl, htold⟩
  cases x with
  | wait d => exact ⟨rfl, rfl⟩
  | acquire =>
      rw [use, notes, step_acquire_rejected hpassive (Breaker.attempt_forced hforced u.now)]
      exact ⟨rfl, rfl⟩
  | check =>
      rw [use, notes, step_check hpassive, Breaker.check_forced hforced]
      exact ⟨rfl, rfl⟩
  | forceOpen =>
      rw [use, notes, step_forceOpen hpassive, Breaker.forceOpen_forced hforced, if_pos hforced]
      exact ⟨rfl, rfl⟩
  | reset => exact absurd rfl hx
  | complete i how => exact hsettles i rfl
  | timeOut i timeout => exact hsettles i rfl
  | fault i fault => exact hsettles i rfl
  | release i => exact hsettles i rfl

/-- A circuit that is not forced open is not forced by anything else. -/
theorem isForced_uses {xs : List Use} (hbefore : u.circuit.breaker.isForced = false)
    (hxs : .forceOpen ∉ xs) : (u.uses xs).circuit.breaker.isForced = false := by
  induction xs generalizing u with
  | nil => exact hbefore
  | cons x rest ih =>
      obtain ⟨hx, hrest⟩ := List.ne_and_not_mem_of_not_mem_cons hxs
      have hquiet : (u.use x).circuit.callbacks.IsPassive := passive_uses hpassive [x]
      apply ih (hu.use x) hquiet ?_ hrest
      rw [isForced_use hu hpassive, if_neg hx.symm]
      split
      · rfl
      · exact hbefore

/-- If a circuit that is not forced open is open before each of several uses and after them, none of
them was a reset, and attempts and checks were made before the end of the wait. -/
theorem early_of_states {xs : List Use} {period : OpenPeriod}
    (hphase : u.circuit.breaker.phase = .opened period) (hunforced : period.forced = false)
    (hxs : .forceOpen ∉ xs) (hopened : ∀ n, (u.uses (xs.take n)).state = .opened) :
    u.Early period.since period.wait xs ∧ .reset ∉ xs := by
  induction xs generalizing u with
  | nil => exact ⟨trivial, List.not_mem_nil⟩
  | cons x rest ih =>
      obtain ⟨hx, hrest⟩ := List.ne_and_not_mem_of_not_mem_cons hxs
      have hquiet : (u.use x).circuit.callbacks.IsPassive := passive_uses hpassive [x]
      have hbefore : u.circuit.breaker.isForced = false := by
        rw [Breaker.isForced, hphase]
        exact hunforced
      have hnext : (u.uses [x]).circuit.breaker.isForced = false := by
        apply isForced_uses hu hpassive hbefore
        rw [List.mem_singleton]
        exact hx
      obtain ⟨hreset, hforce, hwaiting⟩ := waiting_of_opened hpassive hphase (hopened 1) hnext
      obtain ⟨hbreaker, _⟩ := use_waiting hpassive hphase (hu.allStale (hopened 0)) hreset hforce
        hwaiting
      have hsame : (u.use x).circuit.breaker.phase = .opened period := by
        rw [hbreaker]
        exact hphase
      obtain ⟨hearly, hothers⟩ := ih (hu.use x) hquiet hsame hrest fun n => hopened (n + 1)
      refine ⟨⟨?_, hearly⟩, List.not_mem_cons_of_ne_of_not_mem hreset.symm hothers⟩
      exact fun hasked => (Breaker.waited_eq_false_iff hunforced).mp (hwaiting hasked)

end Mark

/-! ## Forced circuits -/

/-- What was done since the last reset, or since the circuit was made. -/
def sinceReset (xs : List Use) : List Use := (xs.reverse.takeWhile (· ≠ .reset)).reverse

/-- One more use. -/
theorem mem_sinceReset_concat (xs : List Use) (x y : Use) :
    y ∈ sinceReset (xs ++ [x]) ↔ x ≠ .reset ∧ (y = x ∨ y ∈ sinceReset xs) := by
  simp only [sinceReset, List.reverse_append, List.reverse_singleton, List.singleton_append,
    List.mem_reverse, List.takeWhile_cons]
  split
  · rename_i hx
    simp only [List.mem_cons, and_iff_right (of_decide_eq_true hx)]
  · rename_i hx
    simp only [List.not_mem_nil, false_iff, not_and]
    exact fun hne => absurd (decide_eq_true hne) hx

/-- A circuit is forced open when it was forced since it was made or last reset. -/
theorem isForced_iff (name : String) (config : Config) (draws : Draws) {callbacks : Callbacks}
    (classifier : Option Classifier) (instant : Instant) (hpassive : callbacks.IsPassive)
    (xs : List Use) :
    ((start name config draws callbacks classifier instant).uses xs).circuit.breaker.isForced =
      true ↔ .forceOpen ∈ sinceReset xs := by
  -- What was done last decides, so the induction takes away the last use.
  induction xs using List.reverseRecOn with
  | nil => exact iff_of_false Bool.false_ne_true (List.not_mem_nil)
  | append_singleton xs x ih =>
      have hu : ((start name config draws callbacks classifier instant).uses xs).Reachable config :=
        .uses (.start name draws callbacks classifier instant) xs
      have hquiet : ((start name config draws callbacks classifier instant).uses
          xs).circuit.callbacks.IsPassive := passive_uses hpassive xs
      rw [mem_sinceReset_concat, ← ih, uses, List.foldl_append]
      have hlast := isForced_use hu hquiet x
      unfold uses at hlast ⊢
      rw [List.foldl_cons, List.foldl_nil, hlast]
      by_cases hforce : x = .forceOpen
      · simp [hforce]
      · by_cases hreset : x = .reset
        · simp [hreset]
        · simp [hforce, hreset, Ne.symm hforce]

/-- A circuit that is held open: it turns away everyone for the longest time.  Nothing that callers
do but a reset, and no sweep of a manager, changes its state or its generation or makes it tell of a
transition. -/
structure HeldOpen (u : Usage) : Prop where
  state : u.state = .opened
  turnsAway : u.TurnsAway ⟨u.circuit.breaker.name, .opened, .longest⟩
  use : ∀ x, x ≠ .reset → (u.use x).state = .opened ∧
    (u.use x).circuit.breaker.generation = u.circuit.breaker.generation ∧
    (u.notes x).transitions = []
  check : u.step .check = (u, [], .state .opened)
  sweep : ∀ (s : Session) (i : Nat), s.IsPrompt → s.Hosts i u →
    (∀ r : Registry, Session.Hosts { s with fleet := r.checkAll s.fleet } i u) ∧
      ∀ k, (s.sweep k).Hosts i u

/-- A circuit that is forced open is held open. -/
theorem heldOpen {config : Config} {u : Usage} (hu : u.Reachable config)
    (hpassive : u.circuit.callbacks.IsPassive) (hforced : u.circuit.breaker.isForced = true) :
    u.HeldOpen := by
  have hstate : u.state = .opened := Breaker.state_of_isForced hforced
  have hcheck : u.step .check = (u, [], .state .opened) := by
    rw [step_check hpassive, Breaker.check_forced hforced, ← hstate]
    rfl
  have hchecks : ∀ n, u.uses (List.replicate n .check) = u := by
    intro n
    induction n with
    | zero => rfl
    | succ n ih =>
        rw [List.replicate_succ, uses, List.foldl_cons, Usage.use, hcheck]
        exact ih
  refine
    { state := hstate
      turnsAway := turnsAway ?_
      use := ?_
      check := hcheck
      sweep := ?_ }
  · rw [step_acquire_rejected hpassive (Breaker.attempt_forced hforced u.now)]
    rfl
  · intro x hx
    obtain ⟨hbreaker, htold⟩ := use_forced hu hpassive hforced hx
    rw [Usage.state, hbreaker]
    exact ⟨hstate, rfl, htold⟩
  · intro s i hprompt hs
    have hsame : ∀ t, s.Checks t → t.Hosts i u := by
      intro t ht
      obtain ⟨n, hn⟩ := (ht hprompt).2 i u hs
      rw [hchecks] at hn
      exact hn
    exact ⟨fun r => hsame _ (s.checkAll_checks r), fun k => hsame _ (s.sweep_checks k)⟩

/-- A circuit in an open period that is like all others: whoever it turns away is told the time that
is left, and when that is over the next check or attempt ends the period. -/
structure WaitsOut (u : Usage) (period : OpenPeriod) : Prop where
  unforced : (u.circuit.metrics u.instant).forced = false
  finite : Duration.ofMillis (period.wait - (u.now - period.since)) ≠ .longest
  waiting : u.now - period.since < period.wait →
    u.TurnsAway ⟨u.circuit.breaker.name, .opened,
      .ofMillis (period.wait - (u.now - period.since))⟩
  waited : period.wait ≤ u.now - period.since →
    (u.use .check).state = .halfOpen ∧ (u.use .acquire).state = .halfOpen

/-- A circuit that is open and not forced open waits. -/
theorem waitsOut {u : Usage} {period : OpenPeriod} (hpassive : u.circuit.callbacks.IsPassive)
    (hphase : u.circuit.breaker.phase = .opened period)
    (hunforced : u.circuit.breaker.isForced = false) : u.WaitsOut period := by
  have hmark : period.forced = false := by
    simpa [Breaker.isForced, hphase] using hunforced
  refine
    { unforced := hunforced
      finite := Duration.ofMillis_ne_longest _
      waiting := ?_
      waited := ?_ }
  · intro hleft
    have hwaiting : Breaker.waited period u.now = false := by
      simpa [Breaker.waited, hmark] using hleft
    apply turnsAway
    rw [step_acquire_rejected hpassive (Breaker.attempt_waiting hphase hwaiting),
      Breaker.openRetry, hmark]
    rfl
  · intro hover
    have hwaited : Breaker.waited period u.now = true := by
      simpa [Breaker.waited, hmark] using hover
    have hprobes : (u.circuit.breaker.check u.now).breaker.state = .halfOpen := by
      rw [Breaker.check_waited hphase hwaited]
      rfl
    refine ⟨?_, (use_acquire_alike hpassive).state.trans hprobes⟩
    rw [state, use, step_check hpassive]
    exact hprobes

/-- A circuit shows that it is forced open exactly when it was forced since it was made or last
reset, and then it is held open.  An open period that begins otherwise, whatever was forced before,
is like all others until the circuit is forced open in it. -/
theorem forced_until_reset (name : String) (config : Config) (draws : Draws)
    {callbacks : Callbacks} (classifier : Option Classifier) (instant : Instant)
    (hpassive : callbacks.IsPassive) (xs : List Use) :
    let u := (start name config draws callbacks classifier instant).uses xs
    ((u.circuit.metrics u.instant).forced = true ↔ .forceOpen ∈ sinceReset xs) ∧
    ((u.circuit.metrics u.instant).forced = true → u.HeldOpen) ∧
    ∀ entry during, u.state ≠ .opened → (u.use entry).state = .opened → entry ≠ .forceOpen →
      .forceOpen ∉ during → (∀ n, ((u.use entry).uses (during.take n)).state = .opened) →
      ∃ period, (u.use entry).circuit.breaker.phase = .opened period ∧
        ((u.use entry).uses during).WaitsOut period := by
  intro u
  have hu : u.Reachable config :=
    Reachable.uses (.start name draws callbacks classifier instant) xs
  have hquiet : u.circuit.callbacks.IsPassive := passive_uses hpassive xs
  refine ⟨isForced_iff name config draws classifier instant hpassive xs,
    fun hforced => heldOpen hu hquiet hforced, ?_⟩
  intro entry during hbefore hafter hentry hduring hopened
  have hentered := hu.use entry
  have hstill : (u.use entry).circuit.callbacks.IsPassive := passive_uses hquiet [entry]
  have hnot : u.circuit.breaker.isForced = false := by
    cases hforced : u.circuit.breaker.isForced with
    | false => rfl
    | true => exact absurd (Breaker.state_of_isForced hforced) hbefore
  have hunforced : (u.uses [entry]).circuit.breaker.isForced = false := by
    apply isForced_uses hu hquiet hnot
    rw [List.mem_singleton]
    exact hentry.symm
  obtain ⟨period, hphase⟩ : ∃ period, (u.use entry).circuit.breaker.phase = .opened period := by
    unfold state Breaker.state at hafter
    cases hphase : (u.use entry).circuit.breaker.phase with
    | opened period => exact ⟨period, rfl⟩
    | closed => simp [hphase, Phase.state] at hafter
    | halfOpen trial => simp [hphase, Phase.state] at hafter
  have hmark : period.forced = false := by
    simpa [Breaker.isForced, uses, hphase] using hunforced
  obtain ⟨hearly, hreset⟩ := early_of_states hentered hstill hphase hmark hduring hopened
  have hbreaker := hearly.breaker_eq hstill (hentered.allStale hafter) hphase hmark hreset hduring
  have hlast : ((u.use entry).uses during).circuit.breaker.phase = .opened period := by
    rw [hbreaker]
    exact hphase
  exact ⟨period, hphase, waitsOut (passive_uses hstill during) hlast
    (isForced_uses hentered hstill hunforced hduring)⟩

/-- What is done with a circuit that is forced open while a call is under way. -/
def forcing : List Use :=
  [.acquire, .forceOpen, .complete 0 .failed, .wait (.ofMillis 9), .check]

/-- Long after its wait, when that call has failed, the circuit is still held open; and when it was
reset and the next call fails it only waits. -/
theorem forced_until_reset_brief :
    ((start "db" .brief .halves .none none 0).uses forcing).HeldOpen ∧
      ∃ period, ((((start "db" .brief .halves .none none 0).uses
        (forcing ++ [.reset, .acquire])).use (.complete 0 .failed)).uses
          [.wait (.ofMillis 3)]).WaitsOut period := by
  have hpassive : Callbacks.none.IsPassive := Or.inl rfl
  have hforced := forced_until_reset "db" .brief .halves none 0 hpassive forcing
  have hreset := forced_until_reset "db" .brief .halves none 0 hpassive
    (forcing ++ [.reset, .acquire])
  refine ⟨hforced.2.1 (hforced.1.mpr (by decide +kernel)), ?_⟩
  have hopened : ∀ n, ((((start "db" .brief .halves .none none 0).uses
      (forcing ++ [.reset, .acquire])).use (.complete 0 .failed)).uses
        (List.take n [.wait (.ofMillis 3)])).state = .opened := by
    intro n
    rcases n with _ | n
    · decide +kernel
    · rw [List.take_of_length_le (by simp)]
      decide +kernel
  obtain ⟨period, _, hwaits⟩ := hreset.2.2 (.complete 0 .failed) [.wait (.ofMillis 3)]
    (by decide +kernel) (by decide +kernel) (by decide +kernel) (by decide +kernel) hopened
  exact ⟨period, hwaits⟩

end Usage

end FailFast
