import FailFast.Proofs.Swept
import FailFast.Proofs.Usage.Changes
import FailFast.Proofs.Usage.Reset

/-!
# Callbacks that unwind

An attempt first decides, and takes the trial permit that it grants, and then tells the callbacks of
the transition that it caused.  Only after that is the permit handed to the caller.  A callback that
unwinds instead of returning takes the caller's permit with it: the trial has given it out, and no
one holds it who could settle it or hand it back.

This happens only where an attempt causes a transition and is granted, which is the attempt that
begins a trial.  A trial of one permit then has none left.  If trials have no deadline, the circuit
refuses every call until an operator forces it open or resets it.

Main results:

- Theorem `Scene.acquireUnder_returns`: callbacks that return make attempts the ordinary ones.
- Theorem `Usage.unwound_balance`: a trial is short of the permit that an attempt gave out before it
  unwound.
- Theorem `Usage.Stuck.uses`: the last permit of a trial without a deadline is lost for good.
- Theorem `Usage.unwinding_keeps_the_permit`: what an attempt that unwinds leaves behind.
-/

namespace FailFast

/-! ## Attempts under callbacks that may unwind -/

/-- Tell the world of a transition; a callback that unwinds leaves the scene as it is then. -/
abbrev Unwinder := Scene → Transition → Except Scene Scene

namespace Unwinder

/-- Callbacks that return. -/
def returning (announce : Announcer) : Unwinder := fun s t => .ok (announce s t)

/-- Callbacks of which the first unwinds at once. -/
def failing : Unwinder := fun s _ => .error s

/-- Callbacks that have not acted on the breaker when they unwind. -/
def IsIdle (announce : Unwinder) : Prop :=
  ∀ s t after, announce s t = .error after → after.breaker = s.breaker

theorem failing_isIdle : failing.IsIdle := by
  intro s t after h
  cases h
  rfl

end Unwinder

namespace Scene

/-- Take over what an operation made of the breaker and announce its transition. -/
def settleUnder (s : Scene) (announce : Unwinder) (m : Moved) : Except Scene Scene :=
  match m.transition with
  | none => .ok (s.leave m.breaker false)
  | some t => announce (s.leave m.breaker false) t

/-- Answer an attempt after its transition was announced. -/
def answer (s : Scene) : Breaker.Verdict → Scene × Except Rejection Nat
  | .granted generation => (s, .ok generation)
  | .rejected state retryAfter =>
    let r : Rejection := ⟨s.breaker.name, state, retryAfter⟩
    ((s.leave s.breaker.countRejection false).note (.rejected r), .error r)

/-- Ask to run one call while callbacks may unwind; if one does, there is no answer. -/
def acquireUnder (s : Scene) (announce : Unwinder) :
    Except Scene (Scene × Except Rejection Nat) :=
  (s.settleUnder announce (s.breaker.attempt s.now).1).map fun s' =>
    s'.answer (s.breaker.attempt s.now).2

/-- Where callbacks return, attempts are the ordinary ones. -/
theorem acquireUnder_returns (s : Scene) (announce : Announcer) :
    s.acquireUnder (.returning announce) = .ok (s.acquire announce) := by
  unfold acquireUnder acquire
  generalize s.breaker.attempt s.now = attempted
  rcases attempted with ⟨⟨breaker, transition⟩, verdict⟩
  cases transition <;> cases verdict <;> rfl

/-- An attempt unwinds where it causes a transition and a callback unwinds that is told of it. -/
theorem acquireUnder_eq_error_iff {s after : Scene} {announce : Unwinder} :
    s.acquireUnder announce = .error after ↔
      ∃ t, (s.breaker.attempt s.now).1.transition = some t ∧
        announce (s.leave (s.breaker.attempt s.now).1.breaker false) t = .error after := by
  unfold acquireUnder settleUnder
  cases hmoved : (s.breaker.attempt s.now).1.transition with
  | none => simp [Except.map]
  | some t =>
      cases hannounce : announce (s.leave (s.breaker.attempt s.now).1.breaker false) t with
      | ok returned => simp [hannounce, Except.map]
      | error unwound => simp [hannounce, Except.map]

/-- So does every attempt that causes a transition, if the first callback unwinds at once. -/
theorem acquireUnder_failing (s : Scene)
    (h : (s.breaker.attempt s.now).1.transition.isSome = true) :
    s.acquireUnder .failing = .error (s.leave (s.breaker.attempt s.now).1.breaker false) := by
  rcases Option.isSome_iff_exists.mp h with ⟨t, ht⟩
  exact acquireUnder_eq_error_iff.mpr ⟨t, ht, rfl⟩

end Scene

/-! ## The permit that is lost -/

/-- The permits that an attempt gives out. -/
def Breaker.Verdict.given : Breaker.Verdict → Nat
  | .granted _ => 1
  | .rejected _ _ => 0

namespace Breaker

/-- An attempt that causes a transition begins a trial, and takes from it what it gives out, or it
opens the circuit and is rejected. -/
theorem attempt_moves {b : Breaker} {now : Nat} {t : Transition}
    (hmoved : (b.attempt now).1.transition = some t) :
    ((b.attempt now).1.breaker.generation = b.generation + 1 ∧
      ∃ trial, (b.attempt now).1.breaker.phase = .halfOpen trial ∧
        trial.permits + trial.completed + (b.attempt now).2.given = b.config.trialCalls) ∨
    ∃ period retryAfter, (b.attempt now).1.breaker.phase = .opened period ∧
      (b.attempt now).2 = .rejected .opened retryAfter := by
  cases hphase : b.phase with
  | closed => simp [attempt, check, hphase, stays] at hmoved
  | opened period =>
      by_cases hwaited : waited period now = true
      · left
        by_cases hcalls : 0 < b.config.trialCalls
        · simp only [attempt, check_waited hphase hwaited, toTrial, moveTo, decideNow,
            TrialPeriod.start, hcalls, if_true]
          exact ⟨rfl, _, rfl, Nat.sub_add_cancel hcalls⟩
        · simp only [attempt, check_waited hphase hwaited, toTrial, moveTo, decideNow,
            TrialPeriod.start, hcalls, if_false, true_and]
          exact ⟨_, rfl, rfl⟩
      · simp [attempt, check, hphase, hwaited, stays] at hmoved
  | halfOpen trial =>
      by_cases hexpired : expired b.config trial now = true
      · right
        simp only [attempt, check, hphase, hexpired, if_true, toOpen, moveTo, decideNow]
        exact ⟨_, _, rfl, rfl⟩
      · simp [attempt, check, hphase, hexpired, stays] at hmoved

/-- A trial without permits and without a deadline refuses every attempt. -/
theorem attempt_exhausted {b : Breaker} {trial : TrialPeriod} (hphase : b.phase = .halfOpen trial)
    (hempty : trial.permits = 0) (huntimed : b.config.trialWait = none) (now : Nat) :
    b.attempt now = (b.stays, .rejected .halfOpen .zero) := by
  rw [attempt_saturated hphase (expired_of_untimed huntimed trial now) hempty,
    trialRetry_of_untimed huntimed]

end Breaker

namespace Usage

/-- The permits of the present generation that callers hold. -/
def live (u : Usage) : Nat := u.permits.countP (·.generation = u.circuit.breaker.generation)

/-- A circuit in use after an attempt that unwound before its caller got an answer. -/
def unwound (u : Usage) : Usage := u.put (u.circuit.breaker.attempt u.now).1.breaker

section Unwound

variable {config : Config} {u : Usage} {announce : Unwinder} {after : Scene}

/-- An attempt that unwound has begun a trial, and taken from it what it gives out, or it has opened
the circuit and was rejected. -/
theorem unwound_moves
    (hunwinds : u.scene.acquireUnder announce = .error after) :
    (u.unwound.circuit.breaker.generation = u.circuit.breaker.generation + 1 ∧
      ∃ trial, u.unwound.circuit.breaker.phase = .halfOpen trial ∧
        trial.permits + trial.completed + (u.circuit.breaker.attempt u.now).2.given =
          u.circuit.breaker.config.trialCalls) ∨
    ∃ period retryAfter, u.unwound.circuit.breaker.phase = .opened period ∧
      (u.circuit.breaker.attempt u.now).2 = .rejected .opened retryAfter := by
  rcases Scene.acquireUnder_eq_error_iff.mp hunwinds with ⟨t, hmoved, _⟩
  exact Breaker.attempt_moves hmoved

/-- In a trial after it callers hold no permit of the present generation. -/
theorem unwound_allStale (hu : u.Reachable config)
    (hunwinds : u.scene.acquireUnder announce = .error after)
    {trial : TrialPeriod} (htrial : u.unwound.circuit.breaker.phase = .halfOpen trial) :
    u.unwound.AllStale := by
  rcases unwound_moves hunwinds with ⟨hgeneration, _⟩ | ⟨_, _, hphase, _⟩
  · intro p hp
    have hle : p.generation ≤ u.circuit.breaker.generation := hu.generation_le hp
    omega
  · rw [hphase] at htrial
    cases htrial

/-- There the permits left, the permits that callers hold and the calls completed fall short of the
configured number by what the attempt gave out. -/
theorem unwound_balance (hu : u.Reachable config)
    (hunwinds : u.scene.acquireUnder announce = .error after)
    {trial : TrialPeriod} (htrial : u.unwound.circuit.breaker.phase = .halfOpen trial) :
    trial.permits + u.unwound.live + trial.completed + (u.circuit.breaker.attempt u.now).2.given =
      config.trialCalls := by
  have hstale := unwound_allStale hu hunwinds htrial
  have hlive : u.unwound.live = 0 := by
    simp only [live, List.countP_eq_zero, decide_eq_true_eq]
    exact fun p hp => (hstale p hp).symm
  rcases unwound_moves hunwinds with ⟨_, begun, hphase, hsum⟩ | ⟨_, _, hphase, _⟩
  · rw [hphase] at htrial
    cases htrial
    rw [hu.config_eq] at hsum
    omega
  · rw [hphase] at htrial
    cases htrial

/-- An attempt that was granted has begun a trial when it unwinds. -/
theorem unwound_granted
    (hunwinds : u.scene.acquireUnder announce = .error after)
    {generation : Nat} (hgranted : (u.circuit.breaker.attempt u.now).2 = .granted generation) :
    ∃ trial, u.unwound.circuit.breaker.phase = .halfOpen trial := by
  rcases unwound_moves hunwinds with ⟨_, trial, hphase, _⟩ | ⟨_, _, _, hrejected⟩
  · exact ⟨trial, hphase⟩
  · rw [hrejected] at hgranted
    cases hgranted

end Unwound

/-! ## A trial that cannot end -/

/-- A trial without permits and without a deadline, of which no caller holds a permit. -/
structure Stuck (u : Usage) : Prop where
  trial : ∃ trial, u.circuit.breaker.phase = .halfOpen trial ∧ trial.permits = 0
  untimed : u.circuit.breaker.config.trialWait = none
  stale : u.AllStale

namespace Stuck

variable {u : Usage} (h : u.Stuck)

include h

/-- It refuses every attempt. -/
theorem attempt (now : Nat) :
    u.circuit.breaker.attempt now = (u.circuit.breaker.stays, .rejected .halfOpen .zero) := by
  rcases h.trial with ⟨trial, hphase, hempty⟩
  exact Breaker.attempt_exhausted hphase hempty h.untimed now

/-- A refusal is counted and nothing else. -/
theorem step_acquire :
    (u.use .acquire).circuit.breaker = u.circuit.breaker.countRejection ∧
      (u.use .acquire).permits = u.permits ∧
      u.reply .acquire = .rejected ⟨u.circuit.breaker.name, .halfOpen, .zero⟩ := by
  rw [use, reply, step_refused (h.attempt u.now)]
  exact ⟨rfl, rfl, rfl⟩

/-- Giving up a permit that a caller still holds changes nothing. -/
theorem spend {operation : Permit → Returned Unit}
    (hstale : ∀ p, u.circuit.breaker.generation ≠ p.generation → (operation p).1 = u.circuit)
    (i : Nat) : (u.spend i operation).1.Stuck := by
  unfold Usage.spend
  cases hp : u.permits[i]? with
  | none => exact h
  | some p =>
      have hkept := hstale p (h.stale p (List.mem_of_getElem? hp))
      refine ⟨?_, ?_, ?_⟩
      · simp only [hkept]
        exact h.trial
      · simp only [hkept]
        exact h.untimed
      · intro q hq
        simp only [hkept]
        exact h.stale q (List.mem_of_mem_eraseIdx hq)

/-- Whatever callers do, it stays as it is until an operator steps in. -/
theorem use {x : Use} (hforce : x ≠ .forceOpen) (hreset : x ≠ .reset) : (u.use x).Stuck := by
  cases x with
  | wait d => exact ⟨h.trial, h.untimed, h.stale⟩
  | acquire =>
      rcases h.step_acquire with ⟨hbreaker, hpermits, _⟩
      refine ⟨?_, ?_, ?_⟩
      · rw [hbreaker]
        exact h.trial
      · rw [hbreaker]
        exact h.untimed
      · intro p hp
        rw [hbreaker]
        exact h.stale p (hpermits ▸ hp)
  | complete i how =>
      exact h.spend (fun p hstale => by rw [Circuit.complete_stale hstale]) i
  | timeOut i timeout =>
      exact h.spend (fun p hstale => by rw [Circuit.timeOut_stale hstale]) i
  | fault i fault =>
      refine h.spend (fun p hstale => ?_) i
      rcases Circuit.fault_stale hstale u.instant fault with hfault | hfault
      · rw [hfault]
      · rw [hfault]
  | release i =>
      exact h.spend (fun p hstale => by rw [Circuit.release_stale hstale]) i
  | check =>
      rcases h.trial with ⟨trial, hphase, hempty⟩
      have hcheck : u.circuit.breaker.check u.now = u.circuit.breaker.stays :=
        Breaker.check_trying hphase (Breaker.expired_of_untimed h.untimed trial u.now)
      have hkept : (u.use .check).circuit.breaker = u.circuit.breaker := by
        rw [now] at hcheck
        simp [Usage.use, Usage.step, operate, Circuit.check, Circuit.perform, Scene.check, hcheck,
          Breaker.stays, Scene.settle, Scene.leave, Scene.tell]
      refine ⟨?_, ?_, ?_⟩
      · rw [hkept]
        exact h.trial
      · rw [hkept]
        exact h.untimed
      · intro p hp
        rw [hkept]
        exact h.stale p hp
  | forceOpen => exact absurd rfl hforce
  | reset => exact absurd rfl hreset

/-- So it does through any number of uses. -/
theorem uses {xs : List Use} (hforce : .forceOpen ∉ xs) (hreset : .reset ∉ xs) :
    (u.uses xs).Stuck := by
  induction xs generalizing u with
  | nil => exact h
  | cons x rest ih =>
      rcases List.ne_and_not_mem_of_not_mem_cons hforce with ⟨hx, hrest⟩
      rcases List.ne_and_not_mem_of_not_mem_cons hreset with ⟨hy, hothers⟩
      exact ih (h.use hx.symm hy.symm) hrest hothers

end Stuck

/-- Where one call is to decide a trial without a deadline, an attempt that unwinds when it has been
granted leaves such a trial behind. -/
theorem stuck_of_unwound {config : Config} {u : Usage} {announce : Unwinder} {after : Scene}
    {generation : Nat} (hu : u.Reachable config)
    (hunwinds : u.scene.acquireUnder announce = .error after)
    (hgranted : (u.circuit.breaker.attempt u.now).2 = .granted generation)
    (hsingle : config.trialCalls = 1) (huntimed : config.trialWait = none) : u.unwound.Stuck := by
  rcases unwound_granted hunwinds hgranted with ⟨trial, htrial⟩
  have hbalance := unwound_balance hu hunwinds htrial
  rw [hgranted, hsingle, Breaker.Verdict.given] at hbalance
  have hconfig : u.unwound.circuit.breaker.config = config := by
    rw [← hu.config_eq]
    exact (u.circuit.breaker.attempt_keeps u.now).config
  refine ⟨⟨trial, htrial, by omega⟩, ?_, unwound_allStale hu hunwinds htrial⟩
  rw [hconfig]
  exact huntimed

/-- An attempt that unwinds keeps the permit that it gives out.  Every trial that it leaves behind
is short of it: the permits left, the permits that callers hold and the calls completed add up to
the configured number only if the attempt gave out none.  One that was granted always leaves such a
trial.  If one call was to decide that trial and it has no deadline, every later attempt is refused,
whatever callers do and however long they wait, until an operator forces the circuit open or resets
it. -/
theorem unwinding_keeps_the_permit {config : Config} {u : Usage} {announce : Unwinder}
    {after : Scene} (hu : u.Reachable config) (hidle : announce.IsIdle)
    (hunwinds : u.scene.acquireUnder announce = .error after) :
    after.breaker = u.unwound.circuit.breaker ∧
    (∀ trial, after.breaker.phase = .halfOpen trial →
      trial.permits + u.unwound.live + trial.completed +
        (u.circuit.breaker.attempt u.now).2.given = config.trialCalls) ∧
    ∀ generation, (u.circuit.breaker.attempt u.now).2 = .granted generation →
      (∃ trial, after.breaker.phase = .halfOpen trial) ∧
      (config.trialCalls = 1 → config.trialWait = none →
        ∀ xs : List Use, .forceOpen ∉ xs → .reset ∉ xs →
          (u.unwound.uses xs).reply .acquire =
            .rejected ⟨(u.unwound.uses xs).circuit.breaker.name, .halfOpen, .zero⟩) := by
  rcases Scene.acquireUnder_eq_error_iff.mp hunwinds with ⟨t, _, hannounce⟩
  have hafter : after.breaker = u.unwound.circuit.breaker := hidle _ t after hannounce
  refine ⟨hafter, ?_, ?_⟩
  · intro trial htrial
    rw [hafter] at htrial
    exact unwound_balance hu hunwinds htrial
  · intro generation hgranted
    refine ⟨?_, ?_⟩
    · rw [hafter]
      exact unwound_granted hunwinds hgranted
    · intro hsingle huntimed xs hforce hreset
      have hstuck := stuck_of_unwound hu hunwinds hgranted hsingle huntimed
      exact (hstuck.uses hforce hreset).step_acquire.2.2

/-- A circuit whose trials are one call: it has opened, and its wait is over. -/
def single : Usage :=
  (start "db" { Config.brief with trialCalls := 1 } .halves .none none 0).uses
    [.acquire, .complete 0 .failed, .wait (.ofMillis 5)]

/-- When a listener there unwinds that is told of the trial, no permit is left and no one holds one,
and the next call is refused an hour later. -/
theorem unwinding_keeps_the_permit_single :
    ∃ after, single.scene.acquireUnder .failing = .error after ∧
      after.breaker.phase = .halfOpen ⟨5, 0, 0, 0, 0⟩ ∧ single.permits = [] ∧
      (single.unwound.uses [.check, .wait (.ofMillis 3600000)]).reply .acquire =
        .rejected ⟨"db", .halfOpen, .zero⟩ := by
  have hreachable : single.Reachable { Config.brief with trialCalls := 1 } :=
    Reachable.uses (.start "db" .halves .none none 0) _
  have hunwinds := single.scene.acquireUnder_failing (by decide +kernel)
  have hgranted : (single.circuit.breaker.attempt single.now).2 = .granted 2 := by decide +kernel
  rcases unwinding_keeps_the_permit hreachable Unwinder.failing_isIdle hunwinds with
    ⟨_, _, hleft⟩
  have hrefused := (hleft 2 hgranted).2 rfl rfl [.check, .wait (.ofMillis 3600000)] (by decide)
    (by decide)
  have hname : (single.unwound.uses [.check, .wait (.ofMillis 3600000)]).circuit.breaker.name =
      "db" := by decide +kernel
  rw [hname] at hrefused
  exact ⟨_, hunwinds, by decide +kernel, by decide +kernel, hrefused⟩

end Usage

end FailFast
