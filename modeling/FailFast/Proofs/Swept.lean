import FailFast.Proofs.Breaker
import FailFast.Proofs.Window

/-!
# Swept breakers

Applying the transitions due changes a breaker only when the wait of an open period is over, and
then it does what the next attempt would do first anyway.  So a breaker to which they are applied at
some more times is at most ahead: it is in a trial of which nothing is used up while the other one
is still open.  Both give the same answers, whatever is done with both, and as soon as one of them
is asked for a permit they are in the same phase again.

What remains different does not matter.  The breakers count different generations, but a permit is
live for both or for neither.  The trials began at different readings, but a trial that may last for
ever does not look at the clock.  And what an open circuit or a trial still holds in its window is
dropped before the circuit closes.

Main results:

- Theorem `Breaker.Behind.sweep`: applying the transitions due to the breaker ahead.
- Theorem `Breaker.Behind.attempt`: attempts have the same verdict.
- Theorem `Breaker.Behind.complete` and theorem `Breaker.Behind.release`: settling a permit enters
  the same phase or none.
- Theorem `Breaker.Behind.forceOpen` and theorem `Breaker.Behind.reset`: what operators do to both.
-/

namespace FailFast

/-! ## Time -/

namespace Breaker

/-- A trial that may last for ever is not over. -/
theorem expired_of_untimed {config : Config} (h : config.trialWait = none) (trial : TrialPeriod)
    (now : Nat) : expired config trial now = false := by
  simp [expired, Config.trialMillis, h]

/-- And does not say for how long to stay away. -/
theorem trialRetry_of_untimed {config : Config} (h : config.trialWait = none)
    (trial : TrialPeriod) (now : Nat) : trialRetry config trial now = .zero := by
  simp [trialRetry, Config.trialMillis, h]

/-- A wait that is over stays over. -/
theorem waited_later {period : OpenPeriod} {now later : Nat} (hlater : now ≤ later)
    (h : waited period now = true) : waited period later = true := by
  simp only [waited, Bool.and_eq_true, decide_eq_true_eq] at h ⊢
  exact ⟨h.1, by omega⟩

/-- The wait of an open period that was forced is never over. -/
theorem waited_of_forced {period : OpenPeriod} (h : period.forced = true) (now : Nat) :
    waited period now = false := by
  simp [waited, h]

end Breaker

/-! ## Breakers behind others -/

/-- The phase of a breaker and the phase of one to which the transitions due were applied more
often, at a reading. -/
inductive Phase.Behind (now trialCalls : Nat) : Phase → Phase → Prop where
  | closed : Behind now trialCalls .closed .closed
  | opened (period : OpenPeriod) : Behind now trialCalls (.opened period) (.opened period)
  | forced {period other : OpenPeriod} (hperiod : period.forced = true)
      (hother : other.forced = true) : Behind now trialCalls (.opened period) (.opened other)
  /-- The wait is over, and only the second one saw that. -/
  | due {period : OpenPeriod} (since : Nat) (hwaited : Breaker.waited period now = true) :
      Behind now trialCalls (.opened period) (.halfOpen (.start since trialCalls))
  | trial (trial : TrialPeriod) (since : Nat) :
      Behind now trialCalls (.halfOpen trial) (.halfOpen { trial with since })

/-- A phase is behind at any later reading. -/
theorem Phase.Behind.later {now later trialCalls : Nat} {phase other : Phase}
    (h : phase.Behind now trialCalls other) (hlater : now ≤ later) :
    phase.Behind later trialCalls other := by
  cases h with
  | closed => exact .closed
  | opened period => exact .opened period
  | forced hperiod hother => exact .forced hperiod hother
  | due since hwaited => exact .due since (Breaker.waited_later hlater hwaited)
  | trial trial since => exact .trial trial since

namespace Breaker

/-- A breaker whose trials may last for ever, and one to which the transitions due were applied more
often. -/
structure Behind (now : Nat) (a b : Breaker) : Prop where
  name : a.name = b.name
  config : a.config = b.config
  rejections : a.rejections = b.rejections
  phase : a.phase.Behind now b.config.trialCalls b.phase
  window : a.state = .closed → a.window = b.window
  cleared : a.window.clear = b.window.clear
  unjittered : b.config.isJittered = false
  untimed : b.config.trialWait = none

/-- The permits of two generations are worth the same, the one to the first breaker and the other to
the second: both are stale, or both are live and the first breaker is not open. -/
inductive Matched (a b : Breaker) (first second : Nat) : Prop where
  | stale (hfirst : first < a.generation) (hsecond : second < b.generation)
  | live (hfirst : a.generation = first) (hsecond : b.generation = second)
      (hstate : a.state ≠ .opened)

/-- Operations bring two breakers, of which the first is behind, to two of which the first is
behind, and what was matched is still matched. -/
structure Brings (now : Nat) (a b c d : Breaker) : Prop where
  behind : c.Behind now d
  matched : ∀ {first second}, a.Matched b first second → c.Matched d first second

/-- One operation after another. -/
theorem Brings.trans {now : Nat} {a b c d e f : Breaker} (h : Brings now a b c d)
    (hnext : Brings now c d e f) : Brings now a b e f :=
  ⟨hnext.behind, fun hmatched => hnext.matched (h.matched hmatched)⟩

/-- Attempts on two breakers are granted with matched permits or refused in the same way. -/
inductive Verdict.Matched (a b : Breaker) : Verdict → Verdict → Prop where
  | granted {first second : Nat} (hmatched : a.Matched b first second) :
      Matched a b (.granted first) (.granted second)
  | rejected (state : State) (retryAfter : Duration) :
      Matched a b (.rejected state retryAfter) (.rejected state retryAfter)

section Matched

variable {a b c d : Breaker} {first second : Nat}

/-- While the first breaker is open nothing is live. -/
theorem Matched.stale_of_opened (h : a.Matched b first second) (hopened : a.state = .opened) :
    first < a.generation ∧ second < b.generation := by
  cases h with
  | stale hfirst hsecond => exact ⟨hfirst, hsecond⟩
  | live _ _ hstate => exact absurd hopened hstate

/-- When both breakers enter a phase what was live becomes stale. -/
theorem Matched.moved (h : a.Matched b first second) (ha : c.generation = a.generation + 1)
    (hb : d.generation = b.generation + 1) : c.Matched d first second := by
  cases h with
  | stale hfirst hsecond => exact .stale (by omega) (by omega)
  | live hfirst hsecond _ => exact .stale (by omega) (by omega)

/-- When either breaker enters a phase while the first is open, everything stays stale. -/
theorem Matched.grown (h : a.Matched b first second) (hopened : a.state = .opened)
    (ha : a.generation ≤ c.generation) (hb : b.generation ≤ d.generation) :
    c.Matched d first second := by
  obtain ⟨hfirst, hsecond⟩ := h.stale_of_opened hopened
  exact .stale (Nat.lt_of_lt_of_le hfirst ha) (Nat.lt_of_lt_of_le hsecond hb)

/-- Updates within a phase change nothing. -/
theorem Matched.alike (h : a.Matched b first second) (hc : a.Alike c) (hd : b.Alike d) :
    c.Matched d first second := by
  cases h with
  | stale hfirst hsecond => exact .stale (hc.generation ▸ hfirst) (hd.generation ▸ hsecond)
  | live hfirst hsecond hstate =>
      exact .live (hc.generation.trans hfirst) (hd.generation.trans hsecond) (hc.state ▸ hstate)

end Matched

namespace Behind

variable {now : Nat} {a b : Breaker}

/-- A breaker is behind at any later reading. -/
theorem later (h : a.Behind now b) {later : Nat} (hlater : now ≤ later) : a.Behind later b :=
  { h with phase := h.phase.later hlater }

/-- Nothing happens to either breaker. -/
theorem stays (h : a.Behind now b) : Brings now a b a b := ⟨h, id⟩

/-- Both breakers are forced open or neither is. -/
theorem isForced (h : a.Behind now b) : a.isForced = b.isForced := by
  have hphase := h.phase
  unfold Breaker.isForced
  generalize a.phase = phase at hphase ⊢
  generalize b.phase = other at hphase ⊢
  cases hphase with
  | closed => rfl
  | opened period => rfl
  | forced hperiod hother => exact hperiod.trans hother.symm
  | @due period since hwaited =>
      cases hforced : period.forced with
      | false => exact hforced
      | true => cases (waited_of_forced hforced now).symm.trans hwaited
  | trial trial since => rfl

/-! ## Entering phases -/

/-- Both breakers enter a phase. -/
theorem moveTo (h : a.Behind now b) {phase other : Phase} {v w : Window}
    (hphase : phase.Behind now b.config.trialCalls other) (hcleared : v.clear = w.clear)
    (hwindow : phase.state = .closed → v = w) :
    Brings now a b (a.moveTo now phase v).breaker (b.moveTo now other w).breaker where
  behind := { h with phase := hphase, window := hwindow, cleared := hcleared }
  matched hmatched := hmatched.moved rfl rfl

theorem toOpen (h : a.Behind now b) (forced : Bool) :
    Brings now a b (a.toOpen now forced).breaker (b.toOpen now forced).breaker := by
  have hwait : a.config.openMillis (a.draws a.generation) =
      b.config.openMillis (b.draws b.generation) := by
    rw [h.config, Config.openMillis_of_not_jittered h.unjittered,
      Config.openMillis_of_not_jittered h.unjittered]
  rw [Breaker.toOpen, Breaker.toOpen, hwait]
  exact h.moveTo (.opened _) h.cleared State.noConfusion

/-- From the same state it is the same transition. -/
theorem toOpen_transition (h : a.Behind now b) (hstate : a.state = b.state) (forced : Bool) :
    (a.toOpen now forced).transition = (b.toOpen now forced).transition := by
  simp only [Breaker.toOpen, Breaker.moveTo, h.name, hstate, Phase.state]

theorem toTrial (h : a.Behind now b) :
    Brings now a b (a.toTrial now).breaker (b.toTrial now).breaker := by
  rw [Breaker.toTrial, Breaker.toTrial, h.config]
  exact h.moveTo (.trial _ now) (congrArg Window.clear h.cleared) State.noConfusion

theorem toClosed (h : a.Behind now b) :
    Brings now a b (a.toClosed now).breaker (b.toClosed now).breaker :=
  h.moveTo .closed (congrArg Window.clear h.cleared) fun _ => h.cleared

theorem toClosed_transition (h : a.Behind now b) (hstate : a.state = b.state) :
    (a.toClosed now).transition = (b.toClosed now).transition := by
  simp only [Breaker.toClosed, Breaker.moveTo, h.name, hstate]

/-- Only the breaker ahead sees that the wait is over. -/
theorem toTrial_ahead (h : a.Behind now b) {period : OpenPeriod} (ha : a.phase = .opened period)
    (hwaited : waited period now = true) : Brings now a b a (b.toTrial now).breaker where
  behind :=
    { h with
      phase := by
        rw [ha]
        exact .due now hwaited
      window := by
        rw [state, ha]
        exact State.noConfusion
      cleared := by rw [h.cleared, Breaker.toTrial, Breaker.moveTo, Window.clear_clear] }
  matched hmatched := hmatched.grown (congrArg Phase.state ha) (Nat.le_refl _) (Nat.le_succ _)

/-- The breaker behind sees it later. -/
theorem toTrial_behind (h : a.Behind now b) {period : OpenPeriod} (ha : a.phase = .opened period)
    {since : Nat} (hb : b.phase = .halfOpen (.start since b.config.trialCalls)) :
    Brings now a b (a.toTrial now).breaker b where
  behind :=
    { h with
      phase := by
        rw [hb, ← h.config]
        exact .trial (.start now a.config.trialCalls) since
      window := State.noConfusion
      cleared := (Window.clear_clear _).trans h.cleared }
  matched hmatched := hmatched.grown (congrArg Phase.state ha) (Nat.le_succ _) (Nat.le_refl _)

/-! ## Updates within a phase -/

/-- Where a permit may be live both breakers are closed or in a trial. -/
theorem phase_of_live (h : a.Behind now b) (hstate : a.state ≠ .opened) :
    (a.phase = .closed ∧ b.phase = .closed) ∨
      ∃ trial since, a.phase = .halfOpen trial ∧ b.phase = .halfOpen { trial with since } := by
  have hphase := h.phase
  rw [state] at hstate
  generalize a.phase = phase at hphase hstate ⊢
  generalize b.phase = other at hphase ⊢
  cases hphase with
  | closed => exact Or.inl ⟨rfl, rfl⟩
  | trial trial since => exact Or.inr ⟨trial, since, rfl, rfl⟩
  | opened period => exact absurd rfl hstate
  | forced _ _ => exact absurd rfl hstate
  | due _ _ => exact absurd rfl hstate

/-- Both trials go on in the same way. -/
theorem inTrial (h : a.Behind now b) {trial : TrialPeriod} {since : Nat}
    (ha : a.phase = .halfOpen trial) (hb : b.phase = .halfOpen { trial with since })
    (next : TrialPeriod) {v w : Window} (hcleared : v.clear = w.clear) :
    Brings now a b { a with phase := .halfOpen next, window := v }
      { b with phase := .halfOpen { next with since }, window := w } where
  behind :=
    { h with
      phase := .trial next since
      window := State.noConfusion
      cleared := hcleared }
  matched hmatched := by
    refine hmatched.alike ⟨rfl, rfl, ?_, rfl, rfl⟩ ⟨rfl, rfl, ?_, rfl, rfl⟩
    · rw [state, state, ha]
      rfl
    · rw [state, state, hb]
      rfl

/-- So they are in the same state. -/
theorem state_of_live (h : a.Behind now b) (hstate : a.state ≠ .opened) : a.state = b.state := by
  rcases h.phase_of_live hstate with ⟨ha, hb⟩ | ⟨trial, since, ha, hb⟩
  · rw [state, state, ha, hb]
  · rw [state, state, ha, hb]
    rfl

/-- Two open periods are marked as forced. -/
theorem marked (h : a.Behind now b) {period : OpenPeriod} (ha : a.phase = .opened period)
    (other : OpenPeriod) :
    Brings now a b { a with phase := .opened { period with forced := true } }
      { b with phase := .opened { other with forced := true } } where
  behind := { h with phase := .forced rfl rfl, window := State.noConfusion }
  matched hmatched :=
    hmatched.grown (congrArg Phase.state ha) (Nat.le_refl _) (Nat.le_refl _)

/-- An open period is marked as forced, and the breaker ahead is forced open. -/
theorem marked_ahead (h : a.Behind now b) {period : OpenPeriod} (ha : a.phase = .opened period) :
    Brings now a b { a with phase := .opened { period with forced := true } }
      (b.toOpen now true).breaker where
  behind := { h with phase := .forced rfl rfl, window := State.noConfusion }
  matched hmatched :=
    hmatched.grown (congrArg Phase.state ha) (Nat.le_refl _) (Nat.le_succ _)

/-- A rejection is counted by both. -/
theorem countRejection (h : a.Behind now b) :
    Brings now a b a.countRejection b.countRejection where
  behind := { h with rejections := congrArg (· + 1) h.rejections }
  matched hmatched := hmatched.alike a.countRejection_alike b.countRejection_alike

/-- In the same state both record an outcome. -/
theorem recorded (h : a.Behind now b) (hstate : a.state = b.state) (o : Outcome) :
    Brings now a b (a.recorded now o) (b.recorded now o) where
  behind :=
    { h with
      phase := by
        have hphase := h.phase
        rw [state, state] at hstate
        unfold Breaker.recorded
        rw [h.config]
        generalize a.phase = phase at hphase hstate ⊢
        generalize b.phase = other at hphase hstate ⊢
        cases hphase with
        | closed => exact .closed
        | opened period => exact .opened period
        | forced hperiod hother => exact .forced hperiod hother
        | due since hwaited => cases hstate
        | trial trial since => exact .trial (trial.count b.config.slowMillis o) since
      window := by
        intro hclosed
        rw [(a.recorded_alike now o).state] at hclosed
        rw [recorded_window, recorded_window, h.window hclosed]
      cleared := by
        rw [recorded_window, recorded_window, Window.clear_record, Window.clear_record, h.cleared] }
  matched hmatched := hmatched.alike (a.recorded_alike now o) (b.recorded_alike now o)

/-! ## Operations -/

/-- Applying the transitions due to the breaker ahead. -/
theorem sweep (h : a.Behind now b) : Brings now a b a (b.check now).breaker := by
  have hphase := h.phase
  generalize ha : a.phase = phase at hphase
  generalize hb : b.phase = other at hphase
  cases hphase with
  | closed =>
      rw [check_closed hb]
      exact h.stays
  | opened period =>
      cases hwaited : waited period now with
      | true =>
          rw [check_waited hb hwaited]
          exact h.toTrial_ahead ha hwaited
      | false =>
          rw [check_waiting hb hwaited]
          exact h.stays
  | forced hperiod hother =>
      rw [check_waiting hb (waited_of_forced hother now)]
      exact h.stays
  | due since hwaited =>
      rw [check_trying hb (expired_of_untimed h.untimed _ now)]
      exact h.stays
  | trial trial since =>
      rw [check_trying hb (expired_of_untimed h.untimed _ now)]
      exact h.stays

/-- Applying them to both, which are in the same state then. -/
theorem check (h : a.Behind now b) :
    Brings now a b (a.check now).breaker (b.check now).breaker ∧
      (a.check now).breaker.state = (b.check now).breaker.state := by
  have hphase := h.phase
  generalize ha : a.phase = phase at hphase
  generalize hb : b.phase = other at hphase
  have hstill : phase.state = other.state → a.state = b.state := by
    intro hsame
    rw [state, state, ha, hb, hsame]
  cases hphase with
  | closed =>
      rw [check_closed ha, check_closed hb]
      exact ⟨h.stays, hstill rfl⟩
  | opened period =>
      cases hwaited : waited period now with
      | true =>
          rw [check_waited ha hwaited, check_waited hb hwaited]
          exact ⟨h.toTrial, rfl⟩
      | false =>
          rw [check_waiting ha hwaited, check_waiting hb hwaited]
          exact ⟨h.stays, hstill rfl⟩
  | forced hperiod hother =>
      rw [check_waiting ha (waited_of_forced hperiod now),
        check_waiting hb (waited_of_forced hother now)]
      exact ⟨h.stays, hstill rfl⟩
  | due since hwaited =>
      rw [check_waited ha hwaited, check_trying hb (expired_of_untimed h.untimed _ now)]
      exact ⟨h.toTrial_behind ha hb, by rw [Breaker.stays, state, state, hb]; rfl⟩
  | trial trial since =>
      have hlasts := expired_of_untimed h.untimed trial now
      rw [← h.config] at hlasts
      rw [check_trying ha hlasts, check_trying hb (expired_of_untimed h.untimed _ now)]
      exact ⟨h.stays, hstill rfl⟩

/-- Breakers in the same state decide in the same way. -/
theorem decideNow (h : a.Behind now b) (hstate : a.state = b.state) :
    Brings now a b (a.decideNow now).1 (b.decideNow now).1 ∧
      Verdict.Matched (a.decideNow now).1 (b.decideNow now).1 (a.decideNow now).2
        (b.decideNow now).2 := by
  have hphase := h.phase
  generalize ha : a.phase = phase at hphase
  generalize hb : b.phase = other at hphase
  unfold Breaker.decideNow
  rw [ha, hb]
  cases hphase with
  | closed => exact ⟨h.stays, .granted (.live rfl rfl (by rw [state, ha]; exact State.noConfusion))⟩
  | opened period => exact ⟨h.stays, .rejected .opened _⟩
  | forced hperiod hother =>
      dsimp only
      rw [openRetry, openRetry, if_pos hperiod, if_pos hother]
      exact ⟨h.stays, .rejected .opened _⟩
  | due since hwaited =>
      rw [state, state, ha, hb] at hstate
      cases hstate
  | trial trial since =>
      dsimp only
      split
      · exact ⟨h.inTrial ha hb _ h.cleared, .granted (.live rfl rfl State.noConfusion)⟩
      · rw [trialRetry_of_untimed h.untimed, h.config, trialRetry_of_untimed h.untimed]
        exact ⟨h.stays, .rejected .halfOpen _⟩

/-- An attempt has the same verdict. -/
theorem attempt (h : a.Behind now b) :
    Brings now a b (a.attempt now).1.breaker (b.attempt now).1.breaker ∧
      Verdict.Matched (a.attempt now).1.breaker (b.attempt now).1.breaker (a.attempt now).2
        (b.attempt now).2 := by
  obtain ⟨hchecked, hstate⟩ := h.check
  obtain ⟨hdecided, hverdict⟩ := hchecked.behind.decideNow hstate
  exact ⟨hchecked.trans hdecided, hverdict⟩

/-- Both trials are judged in the same way. -/
theorem judge (h : a.Behind now b) (hstate : a.state = b.state) (trial : TrialPeriod)
    (since : Nat) :
    Brings now a b (a.judge trial now).breaker (b.judge { trial with since } now).breaker ∧
      (a.judge trial now).transition = (b.judge { trial with since } now).transition := by
  unfold Breaker.judge
  have hcounts : ({ trial with since } : TrialPeriod).counts = trial.counts := rfl
  rw [hcounts, expired_of_untimed h.untimed, h.config, expired_of_untimed h.untimed]
  split
  · split
    · exact ⟨h.toOpen false, h.toOpen_transition hstate false⟩
    · exact ⟨h.toClosed, h.toClosed_transition hstate⟩
  · exact ⟨h.stays, rfl⟩

/-- The outcome of a call is recorded by both or by neither, and enters the same phase or none. -/
theorem complete (h : a.Behind now b) {first second : Nat} (hmatched : a.Matched b first second)
    (o : Outcome) :
    Brings now a b (a.complete now first o).breaker (b.complete now second o).breaker ∧
      (a.complete now first o).transition = (b.complete now second o).transition := by
  cases hmatched with
  | stale hfirst hsecond =>
      rw [complete_stale (Nat.ne_of_gt hfirst), complete_stale (Nat.ne_of_gt hsecond)]
      exact ⟨h.stays, rfl⟩
  | live hfirst hsecond hstate =>
      -- Where a permit is live the first breaker is not open, so the second is not ahead.
      have hsame := h.state_of_live hstate
      obtain ⟨hrecorded, hkept⟩ := h.recorded hsame o
      have hstill : (a.recorded now o).state = (b.recorded now o).state := by
        rw [(a.recorded_alike now o).state, (b.recorded_alike now o).state, hsame]
      rcases h.phase_of_live hstate with ⟨ha, hb⟩ | ⟨trial, since, ha, hb⟩
      · have hclosed : (a.recorded now o).state = .closed := by
          rw [(a.recorded_alike now o).state, state, ha]
          rfl
        have htrips : (a.recorded now o).trips now = (b.recorded now o).trips now := by
          rw [trips, trips, hrecorded.window hclosed, hrecorded.config]
        rw [complete_closed hfirst ha, complete_closed hsecond hb, htrips]
        split
        · exact ⟨.trans ⟨hrecorded, hkept⟩ (hrecorded.toOpen false),
            hrecorded.toOpen_transition hstill false⟩
        · exact ⟨⟨hrecorded, hkept⟩, rfl⟩
      · obtain ⟨hjudged, htransition⟩ :=
          hrecorded.judge hstill (trial.count b.config.slowMillis o) since
        rw [complete_halfOpen hfirst ha, complete_halfOpen hsecond hb, h.config]
        exact ⟨.trans ⟨hrecorded, hkept⟩ hjudged, htransition⟩

/-- A permit is handed back to both or to neither. -/
theorem release (h : a.Behind now b) {first second : Nat} (hmatched : a.Matched b first second) :
    Brings now a b (a.release first) (b.release second) := by
  cases hmatched with
  | stale hfirst hsecond =>
      rw [release_stale (Nat.ne_of_gt hfirst), release_stale (Nat.ne_of_gt hsecond)]
      exact h.stays
  | live hfirst hsecond hstate =>
      unfold Breaker.release
      rw [if_neg (not_not_intro hfirst), if_neg (not_not_intro hsecond)]
      rcases h.phase_of_live hstate with ⟨ha, hb⟩ | ⟨trial, since, ha, hb⟩
      · rw [ha, hb]
        exact h.stays
      · rw [ha, hb]
        exact h.inTrial ha hb _ h.cleared

/-- Both are forced open. -/
theorem forceOpen (h : a.Behind now b) :
    Brings now a b (a.forceOpen now).breaker (b.forceOpen now).breaker := by
  have hphase := h.phase
  generalize ha : a.phase = phase at hphase
  generalize hb : b.phase = other at hphase
  unfold Breaker.forceOpen
  rw [ha, hb]
  cases hphase with
  | closed => exact h.toOpen true
  | trial trial since => exact h.toOpen true
  | opened period => exact h.marked ha _
  | forced hperiod hother => exact h.marked ha _
  | due since hwaited => exact h.marked_ahead ha

/-- Both are reset. -/
theorem reset (h : a.Behind now b) :
    Brings now a b (a.reset now).breaker (b.reset now).breaker where
  behind :=
    { h with
      rejections := rfl
      phase := .closed
      window := fun _ => h.cleared
      cleared := congrArg Window.clear h.cleared }
  matched hmatched := hmatched.moved rfl rfl

end Behind

end Breaker

end FailFast
