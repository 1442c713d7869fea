import FailFast.Config

/-!
# Windows and reference lists

A window stands for the list of all outcomes recorded since it was last empty: it shows the last of
them, or those that are not expired yet, and its counts are those of what it shows.  Which outcomes
it still holds does not matter.  An outcome that was evicted would not be shown any more, and one
that is expired but still held is skipped.

A time window is only followed while its readings never go back and no outcome is stamped later than
the reading at which it is recorded.  Then the expired outcomes are always the oldest ones.

Main results:

- Theorem `CountWindow.Follows.record`: a count window goes on showing the last outcomes.
- Theorem `TimeWindow.Follows.record` and theorem `TimeWindow.Follows.later`: neither an eviction
  nor the passing of time can be told from the outcomes shown.
- Theorem `Window.Follows.outcomes_eq` and theorem `Window.Follows.counts_eq`: what a window of a
  configuration shows and counts.
-/

namespace FailFast

/-! ## The last calls -/

namespace CountWindow

/-- The window holds the last of these outcomes, and its tally counts them. -/
structure Follows (w : CountWindow) (os : List Outcome) : Prop where
  tally : w.buffer.Exact w.slowAt
  held : w.outcomes = os.drop (os.length - w.capacity)

/-- An empty window holds the last of no outcomes. -/
theorem empty_follows (capacity slowAt : Nat) : (empty capacity slowAt).Follows [] :=
  ⟨Buffer.exact_empty slowAt, List.drop_nil.symm⟩

/-- A window that holds the last outcomes goes on doing so when one more is recorded. -/
theorem Follows.record {w : CountWindow} {os : List Outcome} (h : w.Follows os) (o : Outcome) :
    (w.record o).Follows (os ++ [o]) := by
  refine ⟨exact_record h.tally o, ?_⟩
  have hgone : os.length - w.capacity ≤ os.length := Nat.sub_le _ _
  have hheld : w.outcomes ++ [o] = (os ++ [o]).drop (os.length - w.capacity) := by
    rw [h.held, List.drop_append_of_le_length hgone]
  have hcapacity : (w.record o).capacity = w.capacity := rfl
  rw [outcomes_record, hheld, List.drop_drop, hcapacity]
  apply congrArg (fun count => (os ++ [o]).drop count)
  simp only [List.length_drop, List.length_append, List.length_singleton]
  omega

/-- The counts are those of the last outcomes. -/
theorem Follows.counts_eq {w : CountWindow} {os : List Outcome} (h : w.Follows os) :
    w.counts = Counts.ofOutcomes w.slowAt (os.drop (os.length - w.capacity)) := by
  rw [← h.held]
  exact Buffer.counts_eq h.tally

end CountWindow

/-! ## The calls of the last milliseconds -/

namespace TimeWindow

theorem expired_iff {span now : Nat} {o : Outcome} :
    expired span now o = true ↔ addClipped o.timestamp span ≤ now :=
  decide_eq_true_iff

/-- What is expired stays so. -/
theorem expired_later {span now later : Nat} (hlater : now ≤ later) {o : Outcome}
    (h : expired span now o = true) : expired span later o = true :=
  expired_iff.mpr (Nat.le_trans (expired_iff.mp h) hlater)

/-- What is older than an expired outcome is expired too. -/
theorem expired_older {span now : Nat} {o p : Outcome} (holder : p.timestamp ≤ o.timestamp)
    (h : expired span now o = true) : expired span now p = true := by
  rw [expired_iff] at h ⊢
  unfold addClipped at h ⊢
  omega

/-- In a list ordered by age, dropping the expired front leaves the outcomes not yet expired. -/
theorem drop_expiredFront (span now : Nat) {os : List Outcome}
    (hordered : os.Pairwise fun p o => p.timestamp ≤ o.timestamp) :
    os.drop (expiredFront span now os) = os.filter fun o => !expired span now o := by
  induction os with
  | nil => rfl
  | cons o os ih =>
      obtain ⟨holdest, hrest⟩ := List.pairwise_cons.mp hordered
      by_cases hexpired : expired span now o = true
      · have hfront : expiredFront span now (o :: os) = expiredFront span now os + 1 := by
          simp [expiredFront, hexpired]
        rw [hfront, List.drop_succ_cons, ih hrest]
        simp [hexpired]
      · have hfront : expiredFront span now (o :: os) = 0 := by
          simp [expiredFront, hexpired]
        have hlive : ∀ p ∈ o :: os, (!expired span now p) = true := by
          intro p hp
          rcases List.mem_cons.mp hp with rfl | hp
          · simp [hexpired]
          · cases hp' : expired span now p with
            | false => rfl
            | true => exact absurd (expired_older (holdest p hp) hp') hexpired
        rw [hfront, List.drop_zero]
        exact (List.filter_eq_self.mpr hlive).symm

/-- The expired front is as many of the oldest outcomes. -/
theorem takeWhile_expired (span now : Nat) (os : List Outcome) :
    os.takeWhile (expired span now) = os.take (expiredFront span now os) :=
  List.prefix_iff_eq_take.mp (List.takeWhile_prefix _)

/-- The expired front is expired. -/
theorem expired_of_mem_front {span now : Nat} {os : List Outcome} {o : Outcome}
    (ho : o ∈ os.take (expiredFront span now os)) : expired span now o = true := by
  rw [← takeWhile_expired] at ho
  exact List.all_eq_true.mp List.all_takeWhile o ho

/-- The window holds these outcomes but for some that are expired, and its tally counts what it
holds.  The outcomes come in the order of their timestamps, and none is stamped later than the
reading. -/
structure Follows (w : TimeWindow) (now : Nat) (os : List Outcome) : Prop where
  tally : w.buffer.Exact w.slowAt
  ordered : os.Pairwise fun p o => p.timestamp ≤ o.timestamp
  past : ∀ o ∈ os, o.timestamp ≤ now
  held : ∃ gone, os = gone ++ w.buffer.outcomes ∧ ∀ o ∈ gone, expired w.span now o = true

/-- An empty window holds nothing. -/
theorem empty_follows (span slowAt now : Nat) : (empty span slowAt).Follows now [] :=
  ⟨Buffer.exact_empty slowAt, List.Pairwise.nil, List.forall_mem_nil _, [], rfl,
    List.forall_mem_nil _⟩

/-- Time passes and nothing else happens. -/
theorem Follows.later {w : TimeWindow} {now later : Nat} {os : List Outcome}
    (h : w.Follows now os) (hlater : now ≤ later) : w.Follows later os := by
  obtain ⟨gone, hsplit, hgone⟩ := h.held
  refine ⟨h.tally, h.ordered, ?_, gone, hsplit, ?_⟩
  · intro o ho
    exact Nat.le_trans (h.past o ho) hlater
  · intro o ho
    exact expired_later hlater (hgone o ho)

/-- Recording an outcome appends it, whatever is evicted then. -/
theorem Follows.record {w : TimeWindow} {now : Nat} {os : List Outcome} (h : w.Follows now os)
    {o : Outcome} (hpast : o.timestamp ≤ now) (hnewest : ∀ p ∈ os, p.timestamp ≤ o.timestamp) :
    (w.record now o).Follows now (os ++ [o]) := by
  obtain ⟨gone, hsplit, hgone⟩ := h.held
  have hlatest : max now o.timestamp = now := Nat.max_eq_left hpast
  refine ⟨exact_record h.tally now o, ?_, ?_, ?_⟩
  · rw [List.pairwise_append]
    refine ⟨h.ordered, List.pairwise_singleton _ _, ?_⟩
    intro p hp q hq
    rw [List.mem_singleton.mp hq]
    exact hnewest p hp
  · intro p hp
    rcases List.mem_append.mp hp with hp | hp
    · exact h.past p hp
    · rw [List.mem_singleton.mp hp]
      exact hpast
  · have hkept : (w.record now o).buffer.outcomes =
        (w.buffer.outcomes ++ [o]).drop
          (expiredFront w.span now (w.buffer.outcomes ++ [o])) := by
      unfold TimeWindow.record
      rw [hlatest]
      rfl
    refine ⟨gone ++ (w.buffer.outcomes ++ [o]).take
      (expiredFront w.span now (w.buffer.outcomes ++ [o])), ?_, ?_⟩
    · rw [hkept, List.append_assoc, List.take_append_drop, hsplit, List.append_assoc]
    · intro p hp
      rcases List.mem_append.mp hp with hp | hp
      · exact hgone p hp
      · exact expired_of_mem_front hp

/-- The window shows exactly the outcomes that are not expired. -/
theorem Follows.outcomes_eq {w : TimeWindow} {now : Nat} {os : List Outcome}
    (h : w.Follows now os) : w.outcomes now = os.filter fun o => !expired w.span now o := by
  obtain ⟨gone, hsplit, hgone⟩ := h.held
  have hnone : (gone.filter fun o => !expired w.span now o) = [] := by
    rw [List.filter_eq_nil_iff]
    intro o ho
    simp [hgone o ho]
  rw [hsplit, List.filter_append, hnone]
  rfl

/-- And it counts exactly these. -/
theorem Follows.counts_eq {w : TimeWindow} {now : Nat} {os : List Outcome}
    (h : w.Follows now os) :
    w.counts now = Counts.ofOutcomes w.slowAt (os.filter fun o => !expired w.span now o) := by
  obtain ⟨gone, hsplit, hgone⟩ := h.held
  have hordered : w.buffer.outcomes.Pairwise fun p o => p.timestamp ≤ o.timestamp := by
    have hboth := h.ordered
    rw [hsplit, List.pairwise_append] at hboth
    exact hboth.2.1
  rw [TimeWindow.counts_eq h.tally, drop_expiredFront w.span now hordered, ← h.outcomes_eq]
  rfl

end TimeWindow

/-! ## The window of a configuration -/

/-- What a window of a configuration shows of a list of outcomes at a reading: the last calls, or
those whose timestamp and span together, both clipped, lie ahead of the reading. -/
def Config.visible (c : Config) (now : Nat) (os : List Outcome) : List Outcome :=
  match c.windowKind with
  | .countBased => os.drop (os.length - c.windowSize)
  | .timeBased =>
    os.filter fun o => decide (now < addClipped o.timestamp (mulClipped c.windowSize 1000))

namespace Window

/-- A window of the kind and size of a configuration follows a list of outcomes. -/
inductive Follows (c : Config) (now : Nat) (os : List Outcome) : Window → Prop where
  | lastCalls {w : CountWindow} (hkind : c.windowKind = .countBased)
      (hsize : w.capacity = c.windowSize) (hslow : w.slowAt = c.slowMillis) (h : w.Follows os) :
      Follows c now os (.lastCalls w)
  | lastMillis {w : TimeWindow} (hkind : c.windowKind = .timeBased)
      (hspan : w.span = mulClipped c.windowSize 1000) (hslow : w.slowAt = c.slowMillis)
      (h : w.Follows now os) : Follows c now os (.lastMillis w)

/-- Recording an outcome does not change what is left when the window is cleared. -/
@[simp]
theorem clear_record (w : Window) (now : Nat) (o : Outcome) : (w.record now o).clear = w.clear := by
  cases w <;> rfl

/-- A new window is clear. -/
@[simp]
theorem clear_window (c : Config) : c.window.clear = c.window := by
  unfold Config.window
  cases c.windowKind <;> rfl

/-- A new window follows the empty list. -/
theorem window_follows (c : Config) (now : Nat) : Follows c now [] c.window := by
  unfold Config.window
  cases hkind : c.windowKind with
  | countBased => exact .lastCalls hkind rfl rfl (CountWindow.empty_follows _ _)
  | timeBased => exact .lastMillis hkind rfl rfl (TimeWindow.empty_follows _ _ now)

/-- So does a cleared window. -/
theorem Follows.clear {c : Config} {now : Nat} {os : List Outcome} {w : Window}
    (h : Follows c now os w) : Follows c now [] w.clear := by
  cases h with
  | lastCalls hkind hsize hslow _ =>
      exact .lastCalls hkind hsize hslow (CountWindow.empty_follows _ _)
  | lastMillis hkind hspan hslow _ =>
      exact .lastMillis hkind hspan hslow (TimeWindow.empty_follows _ _ now)

/-- Time passes and nothing else happens. -/
theorem Follows.later {c : Config} {now later : Nat} {os : List Outcome} {w : Window}
    (h : Follows c now os w) (hlater : now ≤ later) : Follows c later os w := by
  cases h with
  | lastCalls hkind hsize hslow hw => exact .lastCalls hkind hsize hslow hw
  | lastMillis hkind hspan hslow hw => exact .lastMillis hkind hspan hslow (hw.later hlater)

/-- Recording an outcome stamped with the reading appends it, if no outcome is stamped later. -/
theorem Follows.record {c : Config} {now : Nat} {os : List Outcome} {w : Window}
    (h : Follows c now os w) {o : Outcome} (hstamp : o.timestamp = now)
    (hpast : ∀ p ∈ os, p.timestamp ≤ now) : Follows c now (os ++ [o]) (w.record now o) := by
  cases h with
  | lastCalls hkind hsize hslow hw => exact .lastCalls hkind hsize hslow (hw.record o)
  | lastMillis hkind hspan hslow hw =>
      refine .lastMillis hkind hspan hslow (hw.record (Nat.le_of_eq hstamp) ?_)
      intro p hp
      rw [hstamp]
      exact hpast p hp

/-- The window shows what is visible of the list. -/
theorem Follows.outcomes_eq {c : Config} {now : Nat} {os : List Outcome} {w : Window}
    (h : Follows c now os w) : w.outcomes now = c.visible now os := by
  cases h with
  | lastCalls hkind hsize hslow hw =>
      simp only [outcomes, Config.visible, hkind]
      rw [hw.held, hsize]
  | lastMillis hkind hspan hslow hw =>
      simp only [outcomes, Config.visible, hkind]
      rw [hw.outcomes_eq, hspan]
      simp only [TimeWindow.expired, ← decide_not, Nat.not_le]

/-- The window counts what is visible of the list. -/
theorem Follows.counts_eq {c : Config} {now : Nat} {os : List Outcome} {w : Window}
    (h : Follows c now os w) :
    w.counts now = Counts.ofOutcomes c.slowMillis (c.visible now os) := by
  rw [← h.outcomes_eq]
  cases h with
  | lastCalls hkind hsize hslow hw =>
      simp only [outcomes, counts]
      rw [hw.counts_eq, hslow, hw.held]
  | lastMillis hkind hspan hslow hw =>
      simp only [outcomes, counts]
      rw [hw.counts_eq, hslow, hw.outcomes_eq]

end Window

end FailFast
