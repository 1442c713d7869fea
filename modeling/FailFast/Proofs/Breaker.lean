import FailFast.Circuit.Breaker

/-!
# What an operation can do to a breaker

Every operation but a reset works in two parts.  It first updates the breaker within its phase: it
takes a trial permit or gives one back, records an outcome, or marks an open circuit as forced.
Then the breaker stays in its phase or enters a new one.  Run properties are proved from these two
parts and never by opening an operation again.

Main results:

- Theorem `Breaker.check_leads`: time alone enters one phase or none.
- Theorem `Breaker.complete_leads`: what follows the outcome of a live permit.
- Theorem `Breaker.judge_cases`: a trial ends on its last outcome, by its verdict, or on its
  deadline.
- Theorem `Breaker.Leads.announces`: every way on says what it is.
- Theorem `Breaker.decideNow_granted`: a permit carries the generation that grants it, and an open
  circuit grants none.
-/

namespace FailFast

/-- A transition between different states, of which none leads from closed to half-open. -/
def Transition.IsProper (t : Transition) : Prop :=
  t.source ≠ t.target ∧ ¬ (t.source = .closed ∧ t.target = .halfOpen)

namespace Breaker

/-! ## States and phases -/

section States

variable {b : Breaker}

/-- Only the closed phase shows as closed. -/
theorem state_eq_closed_iff : b.state = .closed ↔ b.phase = .closed := by
  cases h : b.phase <;> simp [state, h, Phase.state]

/-- Only an open period shows as open. -/
theorem state_eq_opened_iff : b.state = .opened ↔ ∃ period, b.phase = .opened period := by
  cases h : b.phase <;> simp [state, h, Phase.state]

/-- Only a trial shows as half open. -/
theorem state_eq_halfOpen_iff : b.state = .halfOpen ↔ ∃ trial, b.phase = .halfOpen trial := by
  cases h : b.phase <;> simp [state, h, Phase.state]

end States

/-! ## Updates within a phase -/

/-- Two breakers that differ at most in their window, in what their phase remembers, and in the
rejections counted. -/
structure Alike (a b : Breaker) : Prop where
  name : b.name = a.name
  config : b.config = a.config
  state : b.state = a.state
  generation : b.generation = a.generation
  changedAt : b.changedAt = a.changedAt

/-- Every breaker is like itself. -/
theorem Alike.refl (b : Breaker) : Alike b b :=
  ⟨rfl, rfl, rfl, rfl, rfl⟩

/-- One update after another. -/
theorem Alike.trans {a b c : Breaker} (hb : Alike a b) (hc : Alike b c) : Alike a c :=
  ⟨hc.name.trans hb.name, hc.config.trans hb.config, hc.state.trans hb.state,
    hc.generation.trans hb.generation, hc.changedAt.trans hb.changedAt⟩

/-- A breaker with one more outcome in its window and, during a trial, in the trial counts. -/
def recorded (b : Breaker) (now : Nat) (o : Outcome) : Breaker :=
  { b with
    window := b.window.record now o
    phase := match b.phase with
      | .halfOpen trial => .halfOpen (trial.count b.config.slowMillis o)
      | phase => phase }

@[simp]
theorem recorded_window (b : Breaker) (now : Nat) (o : Outcome) :
    (b.recorded now o).window = b.window.record now o := rfl

@[simp]
theorem recorded_config (b : Breaker) (now : Nat) (o : Outcome) :
    (b.recorded now o).config = b.config := rfl

/-- A trial with an outcome recorded is a trial with that outcome counted. -/
theorem recorded_halfOpen {b : Breaker} {now : Nat} {o : Outcome} {next : TrialPeriod}
    (h : (b.recorded now o).phase = .halfOpen next) :
    ∃ trial, b.phase = .halfOpen trial ∧ next = trial.count b.config.slowMillis o := by
  unfold recorded at h
  cases hphase : b.phase with
  | closed => simp [hphase] at h
  | opened period => simp [hphase] at h
  | halfOpen trial =>
      simp only [hphase, Phase.halfOpen.injEq] at h
      exact ⟨trial, rfl, h.symm⟩

/-- Recording an outcome stays within the phase. -/
theorem recorded_alike (b : Breaker) (now : Nat) (o : Outcome) : Alike b (b.recorded now o) := by
  refine ⟨rfl, rfl, ?_, rfl, rfl⟩
  simp only [state, recorded]
  cases b.phase <;> rfl

/-- Handing back a permit stays within the phase. -/
theorem release_alike (b : Breaker) (generation : Nat) : Alike b (b.release generation) := by
  unfold release
  split
  · exact Alike.refl b
  · cases hphase : b.phase with
    | halfOpen trial => exact ⟨rfl, rfl, by simp [state, hphase, Phase.state], rfl, rfl⟩
    | closed => exact Alike.refl b
    | opened period => exact Alike.refl b

/-- Counting a rejection stays within the phase. -/
theorem countRejection_alike (b : Breaker) : Alike b b.countRejection :=
  ⟨rfl, rfl, rfl, rfl, rfl⟩

/-- Deciding on an attempt stays within the phase. -/
theorem decideNow_alike (b : Breaker) (now : Nat) : Alike b (b.decideNow now).1 := by
  unfold decideNow
  cases hphase : b.phase with
  | closed => exact Alike.refl b
  | opened period => exact Alike.refl b
  | halfOpen trial =>
      dsimp only
      split
      · exact ⟨rfl, rfl, by simp [state, take, hphase, Phase.state], rfl, rfl⟩
      · exact Alike.refl b

/-- Deciding on an attempt leaves the window alone. -/
@[simp]
theorem decideNow_window (b : Breaker) (now : Nat) : (b.decideNow now).1.window = b.window := by
  unfold decideNow
  cases b.phase with
  | closed => rfl
  | opened period => rfl
  | halfOpen trial =>
      dsimp only
      split <;> rfl

/-- Handing back a permit leaves the window alone. -/
@[simp]
theorem release_window (b : Breaker) (generation : Nat) :
    (b.release generation).window = b.window := by
  unfold release
  split
  · rfl
  · cases b.phase <;> rfl

/-- A permit carries the generation that grants it, and an open circuit grants none. -/
theorem decideNow_granted {b : Breaker} {now generation : Nat}
    (h : (b.decideNow now).2 = .granted generation) :
    generation = b.generation ∧ b.state ≠ .opened := by
  unfold decideNow at h
  cases hphase : b.phase with
  | closed =>
      simp only [hphase, Verdict.granted.injEq] at h
      exact ⟨h.symm, by simp [state, hphase, Phase.state]⟩
  | opened period => simp [hphase] at h
  | halfOpen trial =>
      simp only [hphase] at h
      split at h
      · simp only [Verdict.granted.injEq] at h
        exact ⟨h.symm, by simp [state, hphase, Phase.state]⟩
      · simp at h

section Check

variable {b : Breaker} {now : Nat}

/-- Time does not end the wait of an open period before it is over. -/
theorem check_waiting {period : OpenPeriod} (hphase : b.phase = .opened period)
    (hwait : waited period now = false) : b.check now = b.stays := by
  simp [check, hphase, hwait]

/-- When the wait is over a trial begins. -/
theorem check_waited {period : OpenPeriod} (hphase : b.phase = .opened period)
    (hwait : waited period now = true) : b.check now = b.toTrial now := by
  simp [check, hphase, hwait]

/-- Time does not end a trial before its deadline. -/
theorem check_trying {trial : TrialPeriod} (hphase : b.phase = .halfOpen trial)
    (hdeadline : expired b.config trial now = false) : b.check now = b.stays := by
  simp [check, hphase, hdeadline]

/-- At its deadline the circuit opens again. -/
theorem check_expired {trial : TrialPeriod} (hphase : b.phase = .halfOpen trial)
    (hdeadline : expired b.config trial now = true) : b.check now = b.toOpen now false := by
  simp [check, hphase, hdeadline]

end Check

/-- Until its deadline a trial with a permit left admits the next call. -/
theorem attempt_granted {b : Breaker} {trial : TrialPeriod} {now : Nat}
    (hphase : b.phase = .halfOpen trial) (hdeadline : expired b.config trial now = false)
    (hleft : 0 < trial.permits) : (b.attempt now).2 = .granted b.generation := by
  have hdecided : (b.decideNow now).2 = .granted b.generation := by
    simp [decideNow, hphase, hleft]
  simp only [attempt, check_trying hphase hdeadline, stays]
  exact hdecided

section Saturated

variable {b : Breaker} {now : Nat}

/-- Until its deadline a trial without permits refuses the next call, for as long as is left. -/
theorem attempt_saturated {trial : TrialPeriod} (hphase : b.phase = .halfOpen trial)
    (hdeadline : expired b.config trial now = false) (hempty : trial.permits = 0) :
    b.attempt now = (b.stays, .rejected .halfOpen (trialRetry b.config trial now)) := by
  simp [attempt, check_trying hphase hdeadline, stays, decideNow, hphase, hempty]

/-- Nothing else refuses a call in the half-open state. -/
theorem saturated_of_attempt (htrial : 0 < b.config.trialCalls) {retryAfter : Duration}
    (h : (b.attempt now).2 = .rejected .halfOpen retryAfter) :
    ∃ trial, b.phase = .halfOpen trial ∧ expired b.config trial now = false ∧
      trial.permits = 0 ∧ retryAfter = trialRetry b.config trial now := by
  cases hphase : b.phase with
  | closed => simp [attempt, check, hphase, stays, decideNow] at h
  | opened period =>
      by_cases hwaited : waited period now = true
      · simp [attempt, check_waited hphase hwaited, toTrial, moveTo, decideNow, TrialPeriod.start,
          htrial] at h
      · simp [attempt, check, hphase, hwaited, stays, decideNow] at h
  | halfOpen trial =>
      cases hdeadline : expired b.config trial now with
      | true => simp [attempt, check_expired hphase hdeadline, toOpen, moveTo, decideNow] at h
      | false =>
          by_cases hleft : 0 < trial.permits
          · rw [attempt_granted hphase hdeadline hleft] at h
            cases h
          · have hempty : trial.permits = 0 := by omega
            rw [attempt_saturated hphase hdeadline hempty] at h
            simp only [Verdict.rejected.injEq, true_and] at h
            exact ⟨trial, rfl, hdeadline, hempty, h.symm⟩

end Saturated

section Opened

variable {b : Breaker} {period : OpenPeriod} {now : Nat}

/-- An attempt that finds the circuit open, after the transitions due, is refused with the time
left. -/
theorem attempt_opened (hphase : (b.check now).breaker.phase = .opened period) :
    b.attempt now = (b.check now, .rejected .opened (openRetry period now)) := by
  simp [attempt, decideNow, hphase]

/-- So is an attempt before the end of the wait. -/
theorem attempt_waiting (hphase : b.phase = .opened period) (hwait : waited period now = false) :
    b.attempt now = (b.stays, .rejected .opened (openRetry period now)) := by
  have hchecked := check_waiting hphase hwait
  have hstill : (b.check now).breaker.phase = .opened period := by
    rw [hchecked]
    exact hphase
  rw [attempt_opened hstill, hchecked]

/-- An attempt when the wait is over takes the first permit of the trial. -/
theorem attempt_waited (hphase : b.phase = .opened period) (hwait : waited period now = true)
    (htrial : 0 < b.config.trialCalls) :
    b.attempt now =
      (⟨(b.toTrial now).breaker.take (.start now b.config.trialCalls), (b.toTrial now).transition⟩,
        .granted (b.generation + 1)) := by
  have hdecided : (b.toTrial now).breaker.decideNow now =
      ((b.toTrial now).breaker.take (.start now b.config.trialCalls),
        .granted (b.generation + 1)) := if_pos htrial
  simp only [attempt, check_waited hphase hwait, hdecided]

/-- An attempt at the deadline of a trial is refused with the whole wait that begins then. -/
theorem attempt_expired {trial : TrialPeriod} (hphase : b.phase = .halfOpen trial)
    (hdeadline : expired b.config trial now = true) :
    b.attempt now = (b.toOpen now false,
      .rejected .opened (.ofMillis (b.config.openMillis (b.draws b.generation)))) := by
  have hchecked := check_expired hphase hdeadline
  have hopened : (b.check now).breaker.phase =
      .opened ⟨now, b.config.openMillis (b.draws b.generation), false⟩ := by
    rw [hchecked]
    rfl
  rw [attempt_opened hopened, hchecked]
  simp [openRetry]

end Opened

/-! ## Entering a phase -/

/-- The ways on from a breaker that was updated within its phase. -/
inductive Leads (b : Breaker) (now : Nat) : Moved → Prop where
  | stays : Leads b now b.stays
  | opens (forced : Bool) (h : b.state ≠ .opened) : Leads b now (b.toOpen now forced)
  | probes (h : b.state = .opened) : Leads b now (b.toTrial now)
  | closes (h : b.state = .halfOpen) : Leads b now (b.toClosed now)

/-- No way on changes the configuration. -/
theorem Leads.config {b : Breaker} {now : Nat} {m : Moved} (h : Leads b now m) :
    m.breaker.config = b.config := by
  cases h <;> rfl

/-- Nor the name. -/
theorem Leads.name {b : Breaker} {now : Nat} {m : Moved} (h : Leads b now m) :
    m.breaker.name = b.name := by
  cases h <;> rfl

/-- Nor the number of rejections. -/
theorem Leads.rejections {b : Breaker} {now : Nat} {m : Moved} (h : Leads b now m) :
    m.breaker.rejections = b.rejections := by
  cases h <;> rfl

/-- A breaker in a trial has stayed in it or has just entered it from an open period. -/
theorem Leads.halfOpen {b : Breaker} {now : Nat} {m : Moved} {trial : TrialPeriod}
    (h : Leads b now m) (hphase : m.breaker.phase = .halfOpen trial) :
    (m = b.stays ∧ b.phase = .halfOpen trial) ∨
      (m = b.toTrial now ∧ b.state = .opened ∧ trial = .start now b.config.trialCalls) := by
  cases h with
  | stays => exact Or.inl ⟨rfl, hphase⟩
  | opens forced hstate => cases hphase
  | probes hstate =>
      cases hphase
      exact Or.inr ⟨rfl, hstate, rfl⟩
  | closes hstate => cases hphase

/-- Time alone enters one phase or none. -/
theorem check_leads (b : Breaker) (now : Nat) : Leads b now (b.check now) := by
  unfold check
  cases hphase : b.phase with
  | closed => exact .stays
  | opened period =>
      dsimp only
      split
      · exact .probes (by simp [state, hphase, Phase.state])
      · exact .stays
  | halfOpen trial =>
      dsimp only
      split
      · exact .opens false (by simp [state, hphase, Phase.state])
      · exact .stays

/-- Forcing the circuit open marks an open period and opens any other. -/
theorem forceOpen_leads (b : Breaker) (now : Nat) :
    ∃ marked, Alike b marked ∧ marked.window = b.window ∧
      Leads marked now (b.forceOpen now) := by
  unfold forceOpen
  cases hphase : b.phase with
  | closed => exact ⟨b, Alike.refl b, rfl, .opens true (by simp [state, hphase, Phase.state])⟩
  | halfOpen trial =>
      exact ⟨b, Alike.refl b, rfl, .opens true (by simp [state, hphase, Phase.state])⟩
  | opened period =>
      exact ⟨{ b with phase := .opened { period with forced := true } },
        ⟨rfl, rfl, by simp [state, hphase, Phase.state], rfl, rfl⟩, rfl, .stays⟩

/-- A circuit that was forced open is open. -/
@[simp]
theorem forceOpen_state (b : Breaker) (now : Nat) : (b.forceOpen now).breaker.state = .opened := by
  unfold forceOpen
  cases b.phase <;> rfl

/-- A closed circuit opens on an outcome or stays as it is with the outcome recorded. -/
theorem complete_closed {b : Breaker} {generation : Nat} (hlive : b.generation = generation)
    (hphase : b.phase = .closed) (now : Nat) (o : Outcome) :
    b.complete now generation o =
      if (b.recorded now o).trips now then (b.recorded now o).toOpen now false
      else (b.recorded now o).stays := by
  simp [complete, recorded, hlive, hphase]

/-- An open circuit records an outcome and stays as it is. -/
theorem complete_opened {b : Breaker} {generation : Nat} {period : OpenPeriod}
    (hlive : b.generation = generation) (hphase : b.phase = .opened period) (now : Nat)
    (o : Outcome) : b.complete now generation o = (b.recorded now o).stays := by
  simp [complete, recorded, hlive, hphase]

/-- During a trial an outcome is counted and then judged. -/
theorem complete_halfOpen {b : Breaker} {generation : Nat} {trial : TrialPeriod}
    (hlive : b.generation = generation) (hphase : b.phase = .halfOpen trial) (now : Nat)
    (o : Outcome) :
    b.complete now generation o =
      (b.recorded now o).judge (trial.count b.config.slowMillis o) now := by
  simp [complete, recorded, hlive, hphase]

/-- A trial ends on its last outcome, by its verdict, or on its deadline; otherwise it goes on. -/
theorem judge_cases (b : Breaker) (trial : TrialPeriod) (now : Nat) :
    (b.config.trialCalls ≤ trial.completed ∧
      b.judge trial now =
        if b.config.breached trial.counts then b.toOpen now false else b.toClosed now) ∨
    (trial.completed < b.config.trialCalls ∧ expired b.config trial now = true ∧
      b.judge trial now = b.toOpen now false) ∨
    (trial.completed < b.config.trialCalls ∧ expired b.config trial now = false ∧
      b.judge trial now = b.stays) := by
  unfold judge
  by_cases hlast : b.config.trialCalls ≤ trial.completed
  · exact Or.inl ⟨hlast, by simp [hlast]⟩
  · cases hdeadline : expired b.config trial now with
    | true => exact Or.inr (Or.inl ⟨by omega, rfl, by simp [hlast]⟩)
    | false => exact Or.inr (Or.inr ⟨by omega, rfl, by simp [hlast]⟩)

/-- A trial that goes on after an outcome waits for more of them. -/
theorem judge_goesOn {b : Breaker} {trial next : TrialPeriod} {now : Nat}
    (hnext : (b.judge trial now).breaker.phase = .halfOpen next) :
    trial.completed < b.config.trialCalls := by
  rcases b.judge_cases trial now with ⟨_, hverdict⟩ | ⟨hmore, _⟩ | ⟨hmore, _⟩
  · rw [hverdict] at hnext
    split at hnext <;> cases hnext
  · exact hmore
  · exact hmore

/-- The outcome of a live permit is recorded, and then one phase or none is entered. -/
theorem complete_leads {b : Breaker} {generation : Nat} (hlive : b.generation = generation)
    (now : Nat) (o : Outcome) :
    Leads (b.recorded now o) now (b.complete now generation o) := by
  cases hphase : b.phase with
  | closed =>
      rw [complete_closed hlive hphase]
      split
      · exact .opens false (by simp [state, recorded, hphase, Phase.state])
      · exact .stays
  | opened period =>
      rw [complete_opened hlive hphase]
      exact .stays
  | halfOpen trial =>
      have hstate : (b.recorded now o).state = .halfOpen := by
        simp [state, recorded, hphase, Phase.state]
      rw [complete_halfOpen hlive hphase]
      rcases judge_cases (b.recorded now o) (trial.count b.config.slowMillis o) now with
        ⟨_, hverdict⟩ | ⟨_, _, hverdict⟩ | ⟨_, _, hverdict⟩
      · rw [hverdict]
        split
        · exact .opens false (by simp [hstate])
        · exact .closes hstate
      · rw [hverdict]
        exact .opens false (by simp [hstate])
      · rw [hverdict]
        exact .stays

/-- An operation recorded one outcome: the window took it in, and was emptied afterwards only where
the circuit closed at the end of a trial; a trial that goes on has counted it. -/
structure RecordsOnce (b : Breaker) (now : Nat) (o : Outcome) (next : Breaker) : Prop where
  window : next.window = b.window.record now o ∨
    (b.state = .halfOpen ∧ next.state = .closed ∧ next.window = (b.window.record now o).clear)
  trial : ∀ trial after, b.phase = .halfOpen trial → next.phase = .halfOpen after →
    after = trial.count b.config.slowMillis o

/-- The outcome of a live permit is recorded once, unless the circuit is open. -/
theorem complete_recordsOnce {b : Breaker} {now generation : Nat}
    (hlive : b.generation = generation) (hstate : b.state ≠ .opened) (o : Outcome) :
    b.RecordsOnce now o (b.complete now generation o).breaker := by
  have hleads := complete_leads hlive now o
  have hnotOpened : (b.recorded now o).state ≠ .opened := by
    rw [(b.recorded_alike now o).state]
    exact hstate
  generalize b.complete now generation o = m at hleads ⊢
  constructor
  · cases hleads with
    | stays => exact Or.inl rfl
    | opens forced _ => exact Or.inl rfl
    | probes hopened => exact absurd hopened hnotOpened
    | closes hhalf => exact Or.inr ⟨(b.recorded_alike now o).state.symm.trans hhalf, rfl, rfl⟩
  · intro trial after hphase hnext
    rcases hleads.halfOpen hnext with ⟨_, hrecorded⟩ | ⟨_, hopened, _⟩
    · obtain ⟨counted, hcounted, hafter⟩ := recorded_halfOpen hrecorded
      rw [hphase] at hcounted
      cases hcounted
      exact hafter
    · exact absurd hopened hnotOpened

/-! ## What an operation announces -/

/-- An operation at a reading made a proper transition from the state of a breaker, which is in the
state entered since then, or it made none and left the breaker in its state since when it was.  It
did not change the name, by which the transition calls the breaker. -/
inductive Announces (b : Breaker) (now : Nat) (m : Moved) : Prop where
  | nothing (htransition : m.transition = none) (hstate : m.breaker.state = b.state)
      (hchanged : m.breaker.changedAt = b.changedAt) (hname : m.breaker.name = b.name)
  | change (t : Transition) (htransition : m.transition = some t) (hproper : t.IsProper)
      (hsource : t.source = b.state) (htarget : t.target = m.breaker.state)
      (hreading : t.reading = now) (hchanged : m.breaker.changedAt = now)
      (hname : m.breaker.name = b.name) (hcircuit : t.circuit = b.name)

/-- The transition is the change of state, if there is one. -/
theorem Announces.transition_eq {b : Breaker} {now : Nat} {m : Moved} (h : b.Announces now m) :
    m.transition =
      if m.breaker.state = b.state then none else some ⟨b.name, b.state, m.breaker.state, now⟩ := by
  cases h with
  | nothing htransition hstate _ _ => rw [htransition, if_pos hstate]
  | change t htransition hproper hsource htarget hreading _ _ hcircuit =>
      have hchanged : m.breaker.state ≠ b.state := by
        rw [← htarget, ← hsource]
        exact hproper.1.symm
      rw [htransition, if_neg hchanged, ← hcircuit, ← hsource, ← htarget, ← hreading]

/-- It is proper. -/
theorem Announces.isProper {b : Breaker} {now : Nat} {m : Moved} (h : b.Announces now m) :
    ∀ t ∈ m.transition, t.IsProper := by
  cases h with
  | nothing htransition _ _ _ =>
      rw [htransition]
      exact fun t ht => by cases ht
  | change t htransition hproper _ _ _ _ _ _ =>
      rw [htransition]
      rintro t ⟨⟩
      exact hproper

/-- Every way on from a breaker says what it is. -/
theorem Leads.announces {b : Breaker} {now : Nat} {m : Moved} (h : b.Leads now m) :
    b.Announces now m := by
  cases h with
  | stays => exact .nothing rfl rfl rfl rfl
  | opens forced hstate =>
      refine .change _ rfl ⟨hstate, ?_⟩ rfl rfl rfl rfl rfl rfl
      rintro ⟨_, htarget⟩
      cases htarget
  | probes hstate =>
      have hsource : b.state ≠ .halfOpen ∧ b.state ≠ .closed := by
        rw [hstate]
        exact ⟨State.noConfusion, State.noConfusion⟩
      exact .change _ rfl ⟨hsource.1, fun h => hsource.2 h.1⟩ rfl rfl rfl rfl rfl rfl
  | closes hstate =>
      have hsource : b.state ≠ .closed := by
        rw [hstate]
        exact State.noConfusion
      exact .change _ rfl ⟨hsource, fun h => hsource h.1⟩ rfl rfl rfl rfl rfl rfl

/-- What is announced of an updated breaker is announced of the breaker before the update. -/
theorem Announces.of_alike {a b : Breaker} {now : Nat} {m : Moved} (h : b.Announces now m)
    (hb : Alike a b) : a.Announces now m := by
  cases h with
  | nothing htransition hstate hchanged hname =>
      exact .nothing htransition (hstate.trans hb.state) (hchanged.trans hb.changedAt)
        (hname.trans hb.name)
  | change t htransition hproper hsource htarget hreading hchanged hname hcircuit =>
      exact .change t htransition hproper (hsource.trans hb.state) htarget hreading hchanged
        (hname.trans hb.name) (hcircuit.trans hb.name)

/-- The outcome of a call says what it does. -/
theorem complete_announces (b : Breaker) (now generation : Nat) (o : Outcome) :
    b.Announces now (b.complete now generation o) := by
  by_cases hlive : b.generation = generation
  · exact (complete_leads hlive now o).announces.of_alike (b.recorded_alike now o)
  · rw [complete_stale hlive]
    exact .nothing rfl rfl rfl rfl

/-- Forcing the circuit open says what it does. -/
theorem forceOpen_announces (b : Breaker) (now : Nat) : b.Announces now (b.forceOpen now) := by
  obtain ⟨marked, hmarked, _, hleads⟩ := forceOpen_leads b now
  exact hleads.announces.of_alike hmarked

/-- An attempt says what it does before it decides. -/
theorem attempt_announces (b : Breaker) (now : Nat) : b.Announces now (b.attempt now).1 := by
  have hdecided := decideNow_alike (b.check now).breaker now
  cases (check_leads b now).announces with
  | nothing htransition hstate hchanged hname =>
      exact .nothing htransition (hdecided.state.trans hstate) (hdecided.changedAt.trans hchanged)
        (hdecided.name.trans hname)
  | change t htransition hproper hsource htarget hreading hchanged hname hcircuit =>
      exact .change t htransition hproper hsource (htarget.trans hdecided.state.symm) hreading
        (hdecided.changedAt.trans hchanged) (hdecided.name.trans hname) hcircuit

/-- A reset of an open or half-open circuit says what it does. -/
theorem reset_announces {b : Breaker} (hstate : b.state ≠ .closed) (now : Nat) :
    b.Announces now (b.reset now) :=
  .change ⟨b.name, b.state, .closed, now⟩ (if_neg hstate) ⟨hstate, fun h => hstate h.1⟩ rfl rfl rfl
    rfl rfl rfl

end Breaker

end FailFast
