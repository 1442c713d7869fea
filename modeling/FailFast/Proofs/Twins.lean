import FailFast.Circuit
import FailFast.Proofs.Breaker

/-!
# Twins

Two breakers are twins if they differ only in the generations that they count, by a fixed number,
and in random draws that neither of them uses.  No one can tell twins apart: every operation gives
both the same answer, announces the same transition and leaves them twins, provided that permits
differ by the same number of generations.  This goes on through whatever hooks do, to any depth,
because a hook sees only what was noted.  A permit of an earlier generation than any that the
younger twin had means nothing to the older one.

Main results:

- Theorems `Breaker.Twin.check`, `Breaker.Twin.attempt`, `Breaker.Twin.complete`,
  `Breaker.Twin.forceOpen` and `Breaker.Twin.reset`: operations on twin breakers.
- Theorem `Scene.Twin.reactAll` and theorem `Callbacks.announce_twins`: what hooks do to twins, by
  mutual recursion on their reactions and induction on their depth.
- Theorem `Breaker.Twin.metrics`: twins look the same.
-/

namespace FailFast

/-! ## Twin breakers -/

namespace Breaker

/-- Breakers that differ only in how many generations they count, and in draws that they do not
use. -/
structure Twin (k : Nat) (a b : Breaker) : Prop where
  name : a.name = b.name
  config : a.config = b.config
  window : a.window = b.window
  phase : a.phase = b.phase
  generation : a.generation = b.generation + k
  changedAt : a.changedAt = b.changedAt
  rejections : a.rejections = b.rejections
  unjittered : b.config.isJittered = false

end Breaker

/-- What an operation made of twins: twins again, with the same transition. -/
structure Moved.Twin (k : Nat) (m n : Moved) : Prop where
  breaker : m.breaker.Twin k n.breaker
  transition : m.transition = n.transition

/-- Scenes of twins at the same time, with the same notes. -/
structure Scene.Twin (k : Nat) (s t : Scene) : Prop where
  breaker : s.breaker.Twin k t.breaker
  clock : s.clock = t.clock
  instant : s.instant = t.instant
  journal : s.journal = t.journal

/-- The same verdict on a twin, whose permits are of later generations. -/
def Breaker.Verdict.later (k : Nat) : Breaker.Verdict → Breaker.Verdict
  | .granted generation => .granted (generation + k)
  | .rejected state retryAfter => .rejected state retryAfter

namespace Breaker.Twin

variable {k : Nat} {a b : Breaker} (h : a.Twin k b)

include h

theorem state : a.state = b.state := by
  rw [Breaker.state, Breaker.state, h.phase]

theorem isForced : a.isForced = b.isForced := by
  rw [Breaker.isForced, Breaker.isForced, h.phase]

/-- Twins look the same. -/
theorem metrics (now : Nat) : a.metrics now = b.metrics now := by
  simp only [Breaker.metrics, permits, Breaker.isForced, Breaker.state, h.name, h.window, h.phase,
    h.rejections, h.changedAt]

/-- Twins update their phases in the same way. -/
theorem withPhase (phase : Phase) : Twin k { a with phase } { b with phase } :=
  { h with phase := rfl }

theorem countRejection : a.countRejection.Twin k b.countRejection :=
  { h with rejections := congrArg (· + 1) h.rejections }

/-- Nothing happens to either. -/
theorem stays : a.stays.Twin k b.stays := ⟨h, rfl⟩

/-- Both enter a phase. -/
theorem moveTo (now : Nat) (phase : Phase) {v w : Window} (hwindow : v = w) :
    (a.moveTo now phase v).Twin k (b.moveTo now phase w) where
  breaker :=
    { h with
      window := hwindow
      phase := rfl
      generation := by
        simp only [Breaker.moveTo, h.generation]
        omega
      changedAt := rfl }
  transition := by simp only [Breaker.moveTo, h.name, h.state]

theorem toOpen (now : Nat) (forced : Bool) :
    (a.toOpen now forced).Twin k (b.toOpen now forced) := by
  have hwait : a.config.openMillis (a.draws a.generation) =
      b.config.openMillis (b.draws b.generation) := by
    rw [h.config, Config.openMillis_of_not_jittered h.unjittered,
      Config.openMillis_of_not_jittered h.unjittered]
  rw [Breaker.toOpen, Breaker.toOpen, hwait]
  exact h.moveTo now _ h.window

theorem toTrial (now : Nat) : (a.toTrial now).Twin k (b.toTrial now) := by
  rw [Breaker.toTrial, Breaker.toTrial, h.config]
  exact h.moveTo now _ (congrArg Window.clear h.window)

theorem toClosed (now : Nat) : (a.toClosed now).Twin k (b.toClosed now) :=
  h.moveTo now _ (congrArg Window.clear h.window)

/-! ## Operations on twins -/

theorem check (now : Nat) : (a.check now).Twin k (b.check now) := by
  unfold Breaker.check
  rw [h.phase, h.config]
  cases b.phase with
  | closed => exact h.stays
  | opened period =>
      dsimp only
      split
      · exact h.toTrial now
      · exact h.stays
  | halfOpen trial =>
      dsimp only
      split
      · exact h.toOpen now false
      · exact h.stays

theorem decideNow (now : Nat) :
    (a.decideNow now).1.Twin k (b.decideNow now).1 ∧
      (a.decideNow now).2 = (b.decideNow now).2.later k := by
  unfold Breaker.decideNow
  rw [h.phase, h.config, h.generation]
  cases b.phase with
  | closed => exact ⟨h, rfl⟩
  | opened period => exact ⟨h, rfl⟩
  | halfOpen trial =>
      dsimp only
      split
      · exact ⟨h.withPhase _, rfl⟩
      · exact ⟨h, rfl⟩

theorem attempt (now : Nat) :
    (a.attempt now).1.Twin k (b.attempt now).1 ∧
      (a.attempt now).2 = (b.attempt now).2.later k := by
  obtain ⟨hbreaker, htransition⟩ := h.check now
  obtain ⟨hdecided, hverdict⟩ := hbreaker.decideNow now
  exact ⟨⟨hdecided, htransition⟩, hverdict⟩

theorem judge (trial : TrialPeriod) (now : Nat) :
    (a.judge trial now).Twin k (b.judge trial now) := by
  unfold Breaker.judge
  rw [h.config]
  split
  · split
    · exact h.toOpen now false
    · exact h.toClosed now
  · split
    · exact h.toOpen now false
    · exact h.stays

theorem recorded (now : Nat) (o : Outcome) : (a.recorded now o).Twin k (b.recorded now o) :=
  { h with
    window := congrArg (Window.record now o) h.window
    phase := by simp only [Breaker.recorded, h.phase, h.config] }

theorem trips (now : Nat) : a.trips now = b.trips now := by
  simp only [Breaker.trips, h.config, h.window]

theorem complete (now generation : Nat) (o : Outcome) :
    (a.complete now (generation + k) o).Twin k (b.complete now generation o) := by
  have hrecorded := h.recorded now o
  by_cases hlive : b.generation = generation
  · have halive : a.generation = generation + k := by
      rw [h.generation, hlive]
    cases hphase : b.phase with
    | closed =>
        rw [complete_closed halive (h.phase.trans hphase), complete_closed hlive hphase,
          hrecorded.trips]
        split
        · exact hrecorded.toOpen now false
        · exact hrecorded.stays
    | opened period =>
        rw [complete_opened halive (h.phase.trans hphase), complete_opened hlive hphase]
        exact hrecorded.stays
    | halfOpen trial =>
        rw [complete_halfOpen halive (h.phase.trans hphase), complete_halfOpen hlive hphase,
          h.config]
        exact hrecorded.judge _ now
  · have hstale : a.generation ≠ generation + k := by
      rw [h.generation]
      omega
    rw [complete_stale hlive, complete_stale hstale]
    exact h.stays

theorem release (generation : Nat) :
    (a.release (generation + k)).Twin k (b.release generation) := by
  have hsame : a.generation ≠ generation + k ↔ b.generation ≠ generation := by
    rw [h.generation]
    omega
  unfold Breaker.release
  simp only [hsame]
  split
  · exact h
  · rw [h.phase]
    cases b.phase with
    | closed => exact h
    | opened period => exact h
    | halfOpen trial => exact h.withPhase _

theorem forceOpen (now : Nat) : (a.forceOpen now).Twin k (b.forceOpen now) := by
  unfold Breaker.forceOpen
  rw [h.phase]
  cases b.phase with
  | closed => exact h.toOpen now true
  | opened period => exact (h.withPhase _).stays
  | halfOpen trial => exact h.toOpen now true

theorem reset (now : Nat) : (a.reset now).Twin k (b.reset now) where
  breaker :=
    { h with
      window := congrArg Window.clear h.window
      phase := rfl
      generation := by
        simp only [Breaker.reset, h.generation]
        omega
      changedAt := rfl
      rejections := rfl }
  transition := by simp only [Breaker.reset, h.state, h.name]

/-- Permits of a generation before the younger twin's first are stale. -/
theorem stale {generation : Nat} (hold : generation < k) : a.generation ≠ generation := by
  rw [h.generation]
  omega

end Breaker.Twin

/-! ## Stale permits -/

namespace Scene

variable {s : Scene} {generation : Nat} (hstale : s.breaker.generation ≠ generation)

include hstale

/-- The outcome of a stale permit is discarded. -/
theorem complete_stale (announce : Announcer) (succeeded timedOut : Bool) (elapsed : Duration) :
    s.complete announce generation succeeded timedOut elapsed =
      s.note (.discarded s.breaker.name) :=
  if_pos hstale

/-- A stale permit is handed back in vain. -/
theorem release_stale : s.release generation = s.leave s.breaker false := by
  rw [release, Breaker.release_stale hstale]

/-- The error of a call with a stale permit is discarded, or ignored as any other. -/
theorem fault_stale (announce : Announcer) (classifier : Option Classifier) (fault : Fault)
    (elapsed : Duration) :
    s.fault announce classifier generation fault elapsed = s.note (.discarded s.breaker.name) ∨
      s.fault announce classifier generation fault elapsed =
        (s.note (.ignored s.breaker.name)).leave s.breaker false := by
  have hignored : (s.note (.ignored s.breaker.name)).release generation =
      (s.note (.ignored s.breaker.name)).leave s.breaker false :=
    release_stale (s := s.note (.ignored s.breaker.name)) hstale
  simp only [Scene.fault, complete_stale hstale, hignored]
  cases classifier with
  | none => exact Or.inl rfl
  | some c =>
      dsimp only
      split
      · exact Or.inl rfl
      · exact Or.inr rfl

end Scene

/-! ## Twin scenes -/

/-- Whoever is told of a transition does the same to twins. -/
def Announcer.Twins (k : Nat) (announce : Announcer) : Prop :=
  ∀ (s t : Scene) (m : Transition), s.Twin k t → (announce s m).Twin k (announce t m)

namespace Scene.Twin

variable {k : Nat} {announce : Announcer} {s t : Scene}

/-- Both read the same clock. -/
theorem now (h : s.Twin k t) : s.now = t.now := by
  rw [Scene.now, Scene.now, h.clock, h.instant]

theorem wait (h : s.Twin k t) (d : Duration) : (s.wait d).Twin k (t.wait d) :=
  { h with instant := congrArg (· + d.nanos) h.instant }

theorem note (h : s.Twin k t) (n : Note) : (s.note n).Twin k (t.note n) :=
  { h with journal := congrArg (· ++ [n]) h.journal }

/-- Twins may be left in place of the breakers that were there. -/
theorem leave (h : s.Twin k t) {a b : Breaker} (hbreaker : a.Twin k b) (isReset : Bool) :
    (s.leave a isReset).Twin k (t.leave b isReset) :=
  { h with breaker := hbreaker }

theorem tell (hannounce : announce.Twins k) (h : s.Twin k t) {m n : Option Transition}
    (hm : m = n) : (s.tell announce m).Twin k (t.tell announce n) := by
  subst hm
  cases m with
  | none => exact h
  | some told => exact hannounce _ _ told h

theorem settle (hannounce : announce.Twins k) (h : s.Twin k t) {m n : Moved} (hm : m.Twin k n) :
    (s.settle announce m).Twin k (t.settle announce n) :=
  (h.leave hm.breaker false).tell hannounce hm.transition

theorem check (hannounce : announce.Twins k) (h : s.Twin k t) :
    (s.check announce).1.Twin k (t.check announce).1 ∧
      (s.check announce).2 = (t.check announce).2 := by
  have hchecked := h.breaker.check s.now
  unfold Scene.check
  rw [← h.now]
  exact ⟨h.settle hannounce hchecked, hchecked.breaker.state⟩

theorem acquire (hannounce : announce.Twins k) (h : s.Twin k t) :
    (s.acquire announce).1.Twin k (t.acquire announce).1 ∧
      (s.acquire announce).2 = (t.acquire announce).2.map (· + k) := by
  obtain ⟨hmoved, hverdict⟩ := h.breaker.attempt s.now
  have hsettled := h.settle hannounce hmoved
  unfold Scene.acquire
  rw [← h.now]
  generalize s.breaker.attempt s.now = first at hverdict hsettled ⊢
  generalize t.breaker.attempt s.now = second at hverdict hsettled ⊢
  obtain ⟨m, verdict⟩ := first
  obtain ⟨n, answer⟩ := second
  cases hverdict
  cases answer with
  | granted generation => exact ⟨hsettled, rfl⟩
  | rejected state retryAfter =>
      simp only [hsettled.breaker.name]
      exact ⟨(hsettled.leave hsettled.breaker.countRejection false).note _, rfl⟩

theorem complete (hannounce : announce.Twins k) (h : s.Twin k t) (generation : Nat)
    (succeeded timedOut : Bool) (elapsed : Duration) :
    (s.complete announce (generation + k) succeeded timedOut elapsed).Twin k
      (t.complete announce generation succeeded timedOut elapsed) := by
  have hsame : s.breaker.generation ≠ generation + k ↔ t.breaker.generation ≠ generation := by
    rw [h.breaker.generation]
    omega
  unfold Scene.complete
  simp only [hsame]
  split
  · rw [h.breaker.name]
    exact h.note _
  · rw [h.now]
    exact h.settle hannounce (h.breaker.complete t.now generation _)

theorem release (h : s.Twin k t) (generation : Nat) :
    (s.release (generation + k)).Twin k (t.release generation) :=
  h.leave (h.breaker.release generation) false

theorem fault (hannounce : announce.Twins k) (h : s.Twin k t) (classifier : Option Classifier)
    (generation : Nat) (fault : Fault) (elapsed : Duration) :
    (s.fault announce classifier (generation + k) fault elapsed).Twin k
      (t.fault announce classifier generation fault elapsed) := by
  have hrecorded := h.complete hannounce generation false false elapsed
  unfold Scene.fault
  rw [h.breaker.name]
  cases classifier with
  | none => exact hrecorded
  | some classifier =>
      dsimp only
      split
      · exact hrecorded
      · exact (h.note _).release generation

theorem forceOpen (hannounce : announce.Twins k) (h : s.Twin k t) :
    (s.forceOpen announce).Twin k (t.forceOpen announce) := by
  unfold Scene.forceOpen
  rw [h.breaker.isForced, h.breaker.name, h.now]
  dsimp only
  split
  · exact h.settle hannounce (h.breaker.forceOpen t.now)
  · exact (h.note _).settle hannounce (h.breaker.forceOpen t.now)

theorem reset (hannounce : announce.Twins k) (h : s.Twin k t) :
    (s.reset announce).Twin k (t.reset announce) := by
  have hmoved := h.breaker.reset t.now
  unfold Scene.reset
  rw [h.breaker.name, h.now]
  exact ((h.note _).leave hmoved.breaker true).tell hannounce hmoved.transition

theorem finish (hannounce : announce.Twins k) (h : s.Twin k t) (classifier : Option Classifier)
    (generation : Nat) (elapsed : Duration) (error : Option Fault) :
    (s.finish announce classifier (generation + k) elapsed error).Twin k
      (t.finish announce classifier generation elapsed error) := by
  cases error with
  | none => exact h.complete hannounce generation true false elapsed
  | some fault => exact h.fault hannounce classifier generation fault elapsed

mutual

/-- A hook does the same to twins. -/
theorem react (hannounce : announce.Twins k) (classifier : Option Classifier)
    {s t : Scene} (h : s.Twin k t) : ∀ reaction : Reaction,
      (s.react announce classifier reaction).Twin k (t.react announce classifier reaction)
  | .wait d => h.wait d
  | .reset => h.reset hannounce
  | .forceOpen => h.forceOpen hannounce
  | .check => by
      obtain ⟨hchecked, hstate⟩ := h.check hannounce
      simp only [Scene.react, hstate, hchecked.breaker.name]
      exact hchecked.note _
  | .call inside error => by
      obtain ⟨hacquired, hverdict⟩ := h.acquire hannounce
      simp only [Scene.react]
      generalize s.acquire announce = first at hacquired hverdict ⊢
      generalize t.acquire announce = second at hacquired hverdict ⊢
      obtain ⟨after, answer⟩ := first
      obtain ⟨other, verdict⟩ := second
      cases hverdict
      replace hacquired : after.Twin k other := hacquired
      cases verdict with
      | error rejection =>
          simp only [hacquired.breaker.name]
          exact hacquired.note _
      | ok generation =>
          have hdone := reactAll hannounce classifier hacquired inside
          have hended := hdone.finish hannounce classifier generation
            ⟨(other.reactAll announce classifier inside).instant - other.instant⟩ error
          simp only [hacquired.breaker.name, hacquired.instant, hdone.instant]
          exact hended.note _
  | .acquire => by
      obtain ⟨hacquired, hverdict⟩ := h.acquire hannounce
      simp only [Scene.react]
      generalize s.acquire announce = first at hacquired hverdict ⊢
      generalize t.acquire announce = second at hacquired hverdict ⊢
      obtain ⟨after, answer⟩ := first
      obtain ⟨other, verdict⟩ := second
      cases hverdict
      replace hacquired : after.Twin k other := hacquired
      cases verdict with
      | error rejection =>
          simp only [hacquired.breaker.name]
          exact hacquired.note _
      | ok generation =>
          simp only [hacquired.breaker.name]
          exact (hacquired.release generation).note _

/-- Also in several reactions. -/
theorem reactAll (hannounce : announce.Twins k) (classifier : Option Classifier)
    {s t : Scene} (h : s.Twin k t) : ∀ reactions : List Reaction,
      (s.reactAll announce classifier reactions).Twin k (t.reactAll announce classifier reactions)
  | [] => h
  | reaction :: rest => by
      simp only [Scene.reactAll]
      exact reactAll hannounce classifier (react hannounce classifier h reaction) rest

end

end Scene.Twin

/-- Telling passive callbacks is noting the same. -/
theorem Callbacks.announcePassively_twins (c : Callbacks) (k : Nat) :
    c.announcePassively.Twins k := by
  intro s t m h
  refine { h with journal := ?_ }
  simp only [announcePassively, h.journal, h.breaker.state]

/-- However deep hooks act, they do the same to twins. -/
theorem Callbacks.announce_twins (c : Callbacks) (classifier : Option Classifier)
    (depth k : Nat) : (c.announce classifier depth).Twins k := by
  induction depth with
  | zero => exact c.announcePassively_twins k
  | succ depth ih =>
      intro s t m h
      have htold := c.announcePassively_twins k s t m h
      simp only [announce, htold.journal]
      exact htold.reactAll ih classifier _

end FailFast
