import Mathlib.Data.List.DropRight
import FailFast.Proofs.Window
import FailFast.Scenario.WindowScript

/-!
# Windows along a script

A log runs a script on one window and keeps beside it the list of all outcomes recorded since the
last reset.  The list is never evicted from, so it is what a rescan of the history would read.  A
count window shows the end of that list.  A time window shows those of its outcomes that have not
expired, as long as they come in the order of their timestamps and the readings do not go back.

In whatever order the timestamps come, both ways of reading a time window start from what it holds.
The list of outcomes leaves every expired one out.  The counts leave out only the expired ones in
front, so an expired outcome behind one that is not expired is overdue: still counted and no longer
shown.

Main results:

- Theorem `WindowLog.showsLast_playAll` and theorem `WindowLog.showsLive_playAll`: the running
  window follows the list of what was recorded.
- Theorem `WindowLog.windows_refine_lists`: what the two kinds of windows show and count is read off
  that list.
- Theorem `WindowLog.counts_differ_by_overdue`: the counts of a time window are those of what it
  shows and of what is overdue.
-/

namespace FailFast

namespace WindowStage

/-- The outcome that a step records. -/
def stamp (s : WindowStage) (o : Outcome) (stamped : Bool) : Outcome :=
  if stamped then { o with timestamp := s.now } else o

/-- What recording an outcome once preserves, recording it several times preserves. -/
theorem record_keeps {I : WindowStage → List Outcome → Prop} {o : Outcome}
    (hone : ∀ s os, I s os → I { s with window := s.window.record s.now o } (os ++ [o]))
    (times : Nat) {s : WindowStage} (os : List Outcome) (h : I s os) :
    I (s.record o times) (os ++ List.replicate times o) := by
  induction times generalizing s os with
  | zero => simpa [record] using h
  | succ times ih =>
      have hrest := ih (os ++ [o]) (hone s os h)
      rw [List.append_assoc, List.singleton_append] at hrest
      exact hrest

end WindowStage

/-! ## Logs -/

/-- A stage with the outcomes recorded on its window since the last reset, oldest first. -/
structure WindowLog where
  stage : WindowStage
  recorded : List Outcome

namespace WindowLog

/-- A window on which nothing has been recorded. -/
def start (w : Window) (clock : Clock) (instant : Instant) : WindowLog := ⟨⟨w, clock, instant⟩, []⟩

/-- Run one step. -/
def play (l : WindowLog) (step : WindowStep) : WindowLog where
  stage := (l.stage.play step).1
  recorded :=
    match step with
    | .record o stamped times => l.recorded ++ List.replicate times (l.stage.stamp o stamped)
    | .reset => []
    | _ => l.recorded

/-- Run steps in order. -/
def playAll (l : WindowLog) (steps : List WindowStep) : WindowLog := steps.foldl play l

@[simp]
theorem play_record (l : WindowLog) (o : Outcome) (stamped : Bool) (times : Nat) :
    l.play (.record o stamped times) =
      ⟨l.stage.record (l.stage.stamp o stamped) times,
        l.recorded ++ List.replicate times (l.stage.stamp o stamped)⟩ := rfl

@[simp]
theorem play_reset (l : WindowLog) :
    l.play .reset = ⟨{ l.stage with window := l.stage.window.clear }, []⟩ := rfl

/-- The answers to a script go on with the answers given on the stage that the log has then. -/
theorem answers_append (l : WindowLog) (steps rest : List WindowStep) :
    l.stage.playAll (steps ++ rest) =
      l.stage.playAll steps ++ (l.playAll steps).stage.playAll rest := by
  induction steps generalizing l with
  | nil => rfl
  | cons step steps ih => exact congrArg (_ :: ·) (ih (l.play step))

/-- A condition holds of every step of a script, on the log that the step finds. -/
def Throughout (P : WindowLog → WindowStep → Prop) : WindowLog → List WindowStep → Prop
  | _, [] => True
  | l, step :: rest => P l step ∧ Throughout P (l.play step) rest

instance {P : WindowLog → WindowStep → Prop} [∀ l step, Decidable (P l step)] :
    (l : WindowLog) → (steps : List WindowStep) → Decidable (l.Throughout P steps)
  | _, [] => inferInstanceAs (Decidable True)
  | l, step :: rest =>
    have : Decidable ((l.play step).Throughout P rest) := instDecidableThroughout (l.play step) rest
    inferInstanceAs (Decidable (P l step ∧ (l.play step).Throughout P rest))

/-- What every step of this kind preserves, a script of such steps preserves. -/
theorem Throughout.keeps {P : WindowLog → WindowStep → Prop} {I : WindowLog → Prop}
    (hstep : ∀ l step, I l → P l step → I (l.play step)) {l : WindowLog} {steps : List WindowStep}
    (hsteps : l.Throughout P steps) (h : I l) : I (l.playAll steps) := by
  induction steps generalizing l with
  | nil => exact h
  | cons step steps ih => exact ih hsteps.2 (hstep l step h hsteps.1)

/-- Two conditions of every step are one. -/
theorem Throughout.and {P Q : WindowLog → WindowStep → Prop} {l : WindowLog}
    {steps : List WindowStep} (hp : l.Throughout P steps) (hq : l.Throughout Q steps) :
    l.Throughout (fun l step => P l step ∧ Q l step) steps := by
  induction steps generalizing l with
  | nil => trivial
  | cons step steps ih => exact ⟨⟨hp.1, hq.1⟩, ih hp.2 hq.2⟩

/-- What every step preserves, every script preserves. -/
theorem playAll_keeps {I : WindowLog → Prop} (hstep : ∀ l step, I l → I (l.play step))
    {l : WindowLog} (h : I l) (steps : List WindowStep) : I (l.playAll steps) := by
  induction steps generalizing l with
  | nil => exact h
  | cons step steps ih => exact ih (hstep l step h)

/-! ## The last calls -/

/-- The stage has a count window that follows the recorded outcomes. -/
def ShowsLast (capacity slowAt : Nat) (l : WindowLog) : Prop :=
  ∃ w : CountWindow, l.stage.window = .lastCalls w ∧ w.capacity = capacity ∧ w.slowAt = slowAt ∧
    w.Follows l.recorded

theorem ShowsLast.play {capacity slowAt : Nat} {l : WindowLog} (h : l.ShowsLast capacity slowAt)
    (step : WindowStep) : (l.play step).ShowsLast capacity slowAt := by
  cases step with
  | record o stamped times =>
      rw [play_record]
      refine WindowStage.record_keeps
        (I := fun s os => ShowsLast capacity slowAt ⟨s, os⟩) ?_ times l.recorded h
      intro s os hs
      rcases hs with ⟨w, hwindow, hcapacity, hslow, hw⟩
      refine ⟨w.record (l.stage.stamp o stamped), ?_, hcapacity, hslow, hw.record _⟩
      simp [show s.window = .lastCalls w from hwindow, Window.record]
  | reset =>
      rcases h with ⟨w, hwindow, rfl, rfl, -⟩
      refine ⟨w.clear, ?_, rfl, rfl, CountWindow.empty_follows _ _⟩
      simp [hwindow, Window.clear]
  | advance | outcomes | rates | now => exact h

/-- After any script a count window follows what was recorded since the last reset. -/
theorem showsLast_playAll (capacity slowAt : Nat) (clock : Clock) (instant : Instant)
    (steps : List WindowStep) :
    ((start (.lastCalls (.empty capacity slowAt)) clock instant).playAll steps).ShowsLast
      capacity slowAt :=
  playAll_keeps (I := ShowsLast capacity slowAt) (fun _ step h => h.play step)
    ⟨_, rfl, rfl, rfl, CountWindow.empty_follows capacity slowAt⟩ steps

/-! ## The calls of the last milliseconds -/

/-- A step records only outcomes that are stamped no earlier than those recorded since the last
reset and no later than the reading. -/
def InOrder (l : WindowLog) : WindowStep → Prop
  | .record o stamped times =>
    0 < times → (l.stage.stamp o stamped).timestamp ≤ l.stage.now ∧
      ∀ p ∈ l.recorded, p.timestamp ≤ (l.stage.stamp o stamped).timestamp
  | _ => True

instance (l : WindowLog) : (step : WindowStep) → Decidable (l.InOrder step)
  | .record o stamped times =>
    inferInstanceAs (Decidable (0 < times → (l.stage.stamp o stamped).timestamp ≤ l.stage.now ∧
      ∀ p ∈ l.recorded, p.timestamp ≤ (l.stage.stamp o stamped).timestamp))
  | .advance _ | .reset | .outcomes | .rates | .now => inferInstanceAs (Decidable True)

/-- A step does not turn the reading back. -/
def Onward (l : WindowLog) (step : WindowStep) : Prop := l.stage.now ≤ (l.play step).stage.now

instance (l : WindowLog) (step : WindowStep) : Decidable (l.Onward step) :=
  inferInstanceAs (Decidable (l.stage.now ≤ (l.play step).stage.now))

/-- The stage has a time window that follows the recorded outcomes. -/
def ShowsLive (span slowAt : Nat) (l : WindowLog) : Prop :=
  ∃ w : TimeWindow, l.stage.window = .lastMillis w ∧ w.span = span ∧ w.slowAt = slowAt ∧
    w.Follows l.stage.now l.recorded

theorem ShowsLive.play {span slowAt : Nat} {l : WindowLog} {step : WindowStep}
    (h : l.ShowsLive span slowAt) (horder : l.InOrder step) (honward : l.Onward step) :
    (l.play step).ShowsLive span slowAt := by
  cases step with
  | record o stamped times =>
      rw [play_record]
      by_cases htimes : times = 0
      · simpa [htimes, WindowStage.record] using h
      · rcases horder (Nat.pos_of_ne_zero htimes) with ⟨hpast, hnewest⟩
        -- A repeated outcome finds its earlier copies stamped no later than itself.
        refine (WindowStage.record_keeps (I := fun s os => ShowsLive span slowAt ⟨s, os⟩ ∧
          s.now = l.stage.now ∧ ∀ p ∈ os, p.timestamp ≤ (l.stage.stamp o stamped).timestamp)
          ?_ times l.recorded ⟨h, rfl, hnewest⟩).1
        intro s os hs
        rcases hs with ⟨⟨w, hwindow, hspan, hslow, hw⟩, hnow, hos⟩
        have hpast : (l.stage.stamp o stamped).timestamp ≤ s.now := by rw [hnow]; exact hpast
        refine ⟨⟨w.record s.now (l.stage.stamp o stamped), ?_, hspan, hslow, hw.record hpast hos⟩,
          hnow, ?_⟩
        · simp [show s.window = .lastMillis w from hwindow, Window.record]
        · intro p hp
          rcases List.mem_append.mp hp with hp | hp
          · exact hos p hp
          · rw [List.mem_singleton.mp hp]
  | advance d =>
      rcases h with ⟨w, hwindow, hspan, hslow, hw⟩
      exact ⟨w, hwindow, hspan, hslow, hw.later honward⟩
  | reset =>
      rcases h with ⟨w, hwindow, rfl, rfl, -⟩
      refine ⟨w.clear, ?_, rfl, rfl, TimeWindow.empty_follows _ _ _⟩
      simp [hwindow, Window.clear]
  | outcomes | rates | now => exact h

/-- After a script that records in order and does not turn the reading back a time window follows
what was recorded since the last reset. -/
theorem showsLive_playAll (span slowAt : Nat) (clock : Clock) (instant : Instant)
    {steps : List WindowStep}
    (horder : (start (.lastMillis (.empty span slowAt)) clock instant).Throughout InOrder steps)
    (honward : (start (.lastMillis (.empty span slowAt)) clock instant).Throughout Onward steps) :
    ((start (.lastMillis (.empty span slowAt)) clock instant).playAll steps).ShowsLive
      span slowAt :=
  (horder.and honward).keeps (I := ShowsLive span slowAt)
    (fun _ _ h hstep => h.play hstep.1 hstep.2)
    ⟨_, rfl, rfl, rfl, TimeWindow.empty_follows span slowAt _⟩

theorem play_clock (l : WindowLog) (step : WindowStep) :
    (l.play step).stage.clock = l.stage.clock := by
  cases step with
  | record o stamped times =>
      exact WindowStage.record_keeps (I := fun s _ => s.clock = l.stage.clock)
        (fun _ _ h => h) times l.recorded rfl
  | advance | reset | outcomes | rates | now => rfl

theorem instant_le_play (l : WindowLog) (step : WindowStep) :
    l.stage.instant ≤ (l.play step).stage.instant := by
  cases step with
  | record o stamped times =>
      exact WindowStage.record_keeps (I := fun s _ => l.stage.instant ≤ s.instant)
        (fun _ _ h => h) times l.recorded (Nat.le_refl _)
  | advance d => exact Nat.le_add_right _ _
  | reset | outcomes | rates | now => exact Nat.le_refl _

/-- The clock of a stage has not wrapped. -/
def Unwrapped (l : WindowLog) : Prop :=
  (l.stage.instant - l.stage.clock.anchor) / 1000000 < wordCount

/-- It had not wrapped before a step either. -/
theorem Unwrapped.before {l : WindowLog} {step : WindowStep} (h : (l.play step).Unwrapped) :
    l.Unwrapped := by
  have helapsed := Nat.sub_le_sub_right (l.instant_le_play step) l.stage.clock.anchor
  unfold Unwrapped at h ⊢
  rw [play_clock] at h
  exact Nat.lt_of_le_of_lt (Nat.div_le_div_right helapsed) h

/-- A step at whose end the clock has not wrapped does not turn the reading back. -/
theorem Unwrapped.onward {l : WindowLog} {step : WindowStep} (h : (l.play step).Unwrapped) :
    l.Onward step := by
  unfold Onward WindowStage.now
  unfold Unwrapped at h
  rw [play_clock] at h ⊢
  exact Clock.reading_mono _ (l.instant_le_play step) h

/-- So no step turned the reading back in a script at whose end the clock has not wrapped. -/
theorem Unwrapped.throughout_onward {l : WindowLog} {steps : List WindowStep}
    (h : (l.playAll steps).Unwrapped) : l.Unwrapped ∧ l.Throughout Onward steps := by
  induction steps generalizing l with
  | nil => exact ⟨h, trivial⟩
  | cons step steps ih =>
      rcases ih h with ⟨hstep, hrest⟩
      exact ⟨hstep.before, hstep.onward, hrest⟩

/-! ## What is read -/

/-- The last outcomes recorded since the last reset, as many as a capacity allows. -/
def last (l : WindowLog) (capacity : Nat) : List Outcome :=
  l.recorded.rtake (min capacity l.recorded.length)

/-- The outcomes recorded since the last reset whose timestamp and span together, clipped, lie ahead
of the reading. -/
def live (l : WindowLog) (span : Nat) : List Outcome :=
  l.recorded.filter fun o => decide (l.stage.now < addClipped o.timestamp span)

/-- A look at the window shows these outcomes and counts exactly them. -/
structure Reads (l : WindowLog) (slowAt : Nat) (os : List Outcome) : Prop where
  outcomes : l.stage.window.outcomes l.stage.now = os
  counts : l.stage.counts = Counts.ofOutcomes slowAt os

theorem ShowsLast.reads {capacity slowAt : Nat} {l : WindowLog} (h : l.ShowsLast capacity slowAt) :
    l.Reads slowAt (l.last capacity) := by
  rcases h with ⟨w, hwindow, rfl, rfl, hw⟩
  have hlast : l.last w.capacity = l.recorded.drop (l.recorded.length - w.capacity) := by
    unfold last List.rtake
    congr 1
    omega
  constructor
  · rw [hwindow, hlast]
    exact hw.held
  · rw [WindowStage.counts, hwindow, hlast]
    exact hw.counts_eq

theorem ShowsLive.reads {span slowAt : Nat} {l : WindowLog} (h : l.ShowsLive span slowAt) :
    l.Reads slowAt (l.live span) := by
  rcases h with ⟨w, hwindow, rfl, rfl, hw⟩
  have hlive : l.live w.span =
      l.recorded.filter fun o => !TimeWindow.expired w.span l.stage.now o := by
    simp only [live, TimeWindow.expired, ← decide_not, Nat.not_le]
  constructor
  · rw [hwindow, hlive]
    exact hw.outcomes_eq
  · rw [WindowStage.counts, hwindow, hlive]
    exact hw.counts_eq

/-- After any script a count window shows the last outcomes recorded since the last reset, as many
as its capacity allows.  A time window in which the outcomes are recorded in the order of their
timestamps and never ahead of the clock, and whose readings do not go back, shows all outcomes
recorded since the last reset whose timestamp and span together lie ahead of the reading.  Both
count exactly what they show. -/
theorem windows_refine_lists (capacity span slowAt : Nat) (clock : Clock) (instant : Instant)
    (steps : List WindowStep) :
    (let l := (start (.lastCalls (.empty capacity slowAt)) clock instant).playAll steps
     l.Reads slowAt (l.last capacity)) ∧
    (let fresh := start (.lastMillis (.empty span slowAt)) clock instant
     fresh.Throughout InOrder steps → fresh.Throughout Onward steps →
       (fresh.playAll steps).Reads slowAt ((fresh.playAll steps).live span)) := by
  refine ⟨(showsLast_playAll capacity slowAt clock instant steps).reads, ?_⟩
  intro fresh horder honward
  exact (showsLive_playAll span slowAt clock instant horder honward).reads

/-- Of four calls the first has expired after the last wait. -/
theorem windows_refine_lists_expiring :
    let steps : List WindowStep :=
      [.record (.success 3 0) true 1, .advance ⟨40000000⟩, .record (.failure 7 20) false 2,
        .record (.timeout 1 0) true 1, .advance ⟨30000000⟩]
    let fresh := start (.lastMillis (.empty 60 5)) ⟨0⟩ 0
    (fresh.Throughout InOrder steps ∧ fresh.Throughout Onward steps) ∧
      ((start (.lastCalls (.empty 2 5)) ⟨0⟩ 0).playAll steps).Reads 5
        [.failure 7 20, .timeout 1 40] ∧
      (fresh.playAll steps).Reads 5 [.failure 7 20, .failure 7 20, .timeout 1 40] := by
  intro steps fresh
  have horder : fresh.Throughout InOrder steps := by decide +kernel
  have honward : fresh.Throughout Onward steps := by decide +kernel
  have hlive : (fresh.playAll steps).live 60 =
      [.failure 7 20, .failure 7 20, .timeout 1 40] := by decide +kernel
  have hreads := windows_refine_lists 2 60 5 ⟨0⟩ 0 steps
  rw [← hlive]
  exact ⟨⟨horder, honward⟩, hreads.1, hreads.2 horder honward⟩

/-- Where the readings go back, an outcome evicted when it had expired is not shown again although
its time has come back: the clock wraps to zero, and nothing is there. -/
theorem wrapped_window_differs :
    ¬∀ (span slowAt : Nat) (steps : List WindowStep),
      let fresh := start (.lastMillis (.empty span slowAt)) ⟨0⟩ 0
      fresh.Throughout InOrder steps →
        (fresh.playAll steps).Reads slowAt ((fresh.playAll steps).live span) := by
  intro h
  have hreads := h 1000 100 [.advance (.ofMillis 5000), .record (.success 1 0) false 1,
    .advance (.ofMillis 18446744073709546616)] (by decide +kernel)
  exact absurd hreads.outcomes (by decide +kernel)

end WindowLog

/-! ## Timestamps in any order -/

namespace Counts

/-- Counts do not depend on an order. -/
theorem ofOutcomes_perm {slowAt : Nat} {os ps : List Outcome} (h : os.Perm ps) :
    ofOutcomes slowAt os = ofOutcomes slowAt ps := by
  simp only [ofOutcomes, h.length_eq, h.countP_eq]

/-- Counting more outcomes is noticed. -/
theorem ofOutcomes_append_eq_iff {slowAt : Nat} {os more : List Outcome} :
    ofOutcomes slowAt (os ++ more) = ofOutcomes slowAt os ↔ more = [] := by
  constructor
  · intro h
    have htotal := congrArg total h
    simp only [ofOutcomes, List.length_append] at htotal
    exact List.length_eq_zero_iff.mp (by omega)
  · rintro rfl
    rw [List.append_nil]

end Counts

namespace TimeWindow

/-- The expired outcomes that are held behind one that is not expired. -/
def overdue (w : TimeWindow) (now : Nat) : List Outcome :=
  (w.buffer.outcomes.drop (expiredFront w.span now w.buffer.outcomes)).filter (expired w.span now)

/-- The outcomes shown are those behind the expired front that are not expired. -/
theorem outcomes_eq_behind (w : TimeWindow) (now : Nat) :
    w.outcomes now =
      (w.buffer.outcomes.drop (expiredFront w.span now w.buffer.outcomes)).filter
        fun o => !expired w.span now o := by
  have hfront : ((w.buffer.outcomes.take (expiredFront w.span now w.buffer.outcomes)).filter
      fun o => !expired w.span now o) = [] := by
    rw [List.filter_eq_nil_iff]
    intro o ho
    simp [expired_of_mem_front ho]
  unfold outcomes
  conv => lhs; rw [← List.take_append_drop (expiredFront w.span now w.buffer.outcomes)
    w.buffer.outcomes]
  rw [List.filter_append, hfront, List.nil_append]

/-- What is counted is what is shown and what is overdue. -/
theorem counts_eq_overdue {w : TimeWindow} (h : w.buffer.Exact w.slowAt) (now : Nat) :
    w.counts now = Counts.ofOutcomes w.slowAt (w.outcomes now ++ w.overdue now) := by
  rw [counts_eq h, outcomes_eq_behind, overdue]
  apply Counts.ofOutcomes_perm
  refine List.Perm.trans ?_ List.perm_append_comm
  exact (List.filter_append_perm (expired w.span now) _).symm

/-- Nothing is overdue in a window that holds its outcomes in the order of their timestamps. -/
theorem overdue_eq_nil {w : TimeWindow} {now : Nat}
    (h : w.buffer.outcomes.Pairwise fun p o => p.timestamp ≤ o.timestamp) :
    w.overdue now = [] := by
  rw [overdue, drop_expiredFront w.span now h, List.filter_eq_nil_iff]
  intro o ho
  have hlive := (List.mem_filter.mp ho).2
  simpa using hlive

end TimeWindow

namespace WindowLog

/-- The stage has a time window that holds the latest of the recorded outcomes and counts exactly
what it holds. -/
def HoldsLatest (span slowAt : Nat) (l : WindowLog) (w : TimeWindow) : Prop :=
  l.stage.window = .lastMillis w ∧ w.span = span ∧ w.slowAt = slowAt ∧
    w.buffer.Exact w.slowAt ∧ w.buffer.outcomes <:+ l.recorded

theorem holdsLatest_play {span slowAt : Nat} {l : WindowLog}
    (h : ∃ w, l.HoldsLatest span slowAt w) (step : WindowStep) :
    ∃ w, (l.play step).HoldsLatest span slowAt w := by
  cases step with
  | record o stamped times =>
      rw [play_record]
      refine WindowStage.record_keeps (I := fun s os => ∃ w, HoldsLatest span slowAt ⟨s, os⟩ w) ?_
        times l.recorded h
      intro s os hs
      rcases hs with ⟨w, hwindow, hspan, hslow, hexact, hlatest⟩
      refine ⟨w.record s.now (l.stage.stamp o stamped), ?_, hspan, hslow,
        TimeWindow.exact_record hexact _ _, ?_⟩
      · simp [show s.window = .lastMillis w from hwindow, Window.record]
      · have happended : w.buffer.outcomes ++ [l.stage.stamp o stamped] <:+
            os ++ [l.stage.stamp o stamped] := by
          rcases hlatest with ⟨gone, rfl⟩
          exact ⟨gone, by simp⟩
        exact (List.drop_suffix _ _).trans happended
  | reset =>
      rcases h with ⟨w, hwindow, rfl, rfl, -⟩
      refine ⟨w.clear, ?_, rfl, rfl, Buffer.exact_empty _, List.nil_suffix⟩
      simp [hwindow, Window.clear]
  | advance | outcomes | rates | now => exact h

/-- After any script a time window counts what it shows and what is overdue.  So what it counts is
exactly what it shows if and only if nothing is overdue, and nothing is overdue if the outcomes
since the last reset were recorded in the order of their timestamps. -/
theorem counts_differ_by_overdue (span slowAt : Nat) (clock : Clock) (instant : Instant)
    (steps : List WindowStep) :
    let l := (start (.lastMillis (.empty span slowAt)) clock instant).playAll steps
    ∃ w, l.HoldsLatest span slowAt w ∧
      l.stage.counts = Counts.ofOutcomes slowAt
        (l.stage.window.outcomes l.stage.now ++ w.overdue l.stage.now) ∧
      (l.stage.counts = Counts.ofOutcomes slowAt (l.stage.window.outcomes l.stage.now) ↔
        w.overdue l.stage.now = []) ∧
      (l.recorded.Pairwise (fun p o => p.timestamp ≤ o.timestamp) →
        w.overdue l.stage.now = []) := by
  intro l
  have hholds : ∃ w, l.HoldsLatest span slowAt w :=
    playAll_keeps (I := fun l => ∃ w, l.HoldsLatest span slowAt w)
      (fun _ step h => holdsLatest_play h step)
      ⟨_, rfl, rfl, rfl, Buffer.exact_empty slowAt, List.suffix_refl []⟩ steps
  rcases hholds with ⟨w, hw⟩
  rcases id hw with ⟨hwindow, -, rfl, hexact, hlatest⟩
  have hcounts : l.stage.counts = Counts.ofOutcomes w.slowAt
      (l.stage.window.outcomes l.stage.now ++ w.overdue l.stage.now) := by
    rw [WindowStage.counts, hwindow]
    exact TimeWindow.counts_eq_overdue hexact l.stage.now
  refine ⟨w, hw, hcounts, ?_, ?_⟩
  · rw [hcounts]
    exact Counts.ofOutcomes_append_eq_iff
  · intro hordered
    exact TimeWindow.overdue_eq_nil (hordered.sublist hlatest.sublist)

/-- Two outcomes recorded in the order of their timestamps, of which the first has expired. -/
theorem counts_differ_by_overdue_in_order :
    let l := (start (.lastMillis (.empty 60 100)) ⟨0⟩ 0).playAll
      [.advance (.ofMillis 100), .record (.failure 200 50) false 1,
        .record (.success 1 100) false 1, .advance (.ofMillis 10)]
    (l.recorded.Pairwise fun p o => p.timestamp ≤ o.timestamp) ∧
      ∃ w, l.HoldsLatest 60 100 w ∧ w.overdue l.stage.now = [] := by
  intro l
  have hordered : l.recorded.Pairwise fun p o => p.timestamp ≤ o.timestamp := by decide +kernel
  rcases counts_differ_by_overdue 60 100 ⟨0⟩ 0 [.advance (.ofMillis 100),
    .record (.failure 200 50) false 1, .record (.success 1 100) false 1,
    .advance (.ofMillis 10)] with ⟨w, hw, -, -, hnone⟩
  exact ⟨hordered, w, hw, hnone hordered⟩

/-- Of two outcomes the later recorded one is the older: once it has expired it is no longer shown,
but it is counted until the other one has expired too. -/
theorem overdue_outcome_counted :
    let l := (start (.lastMillis (.empty 60 100)) ⟨0⟩ 0).playAll
      [.advance (.ofMillis 100), .record (.success 1 100) false 1,
        .record (.failure 200 50) false 1, .advance (.ofMillis 10)]
    l.stage.window.outcomes l.stage.now = [.success 1 100] ∧ l.stage.counts = ⟨2, 1, 1, 1⟩ := by
  decide +kernel

end WindowLog

end FailFast
