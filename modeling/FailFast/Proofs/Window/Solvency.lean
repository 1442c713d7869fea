import Mathlib.Data.Nat.PSub
import FailFast.Proofs.Window

/-!
# Counters that never run short

Counting an outcome out subtracts from each counter that it was counted in.  The subtraction of
natural numbers stops at zero, so a tally that had lost track of its buffer would go on with wrong
counts, where subtraction of machine words would fail or wrap.  This module does every subtraction
of a window once more with a partial one, which has no result below zero: outcomes are evicted one
after the other, as long as the window holds too many or too old ones, and a reading counts out one
expired outcome at a time.

The tally of a window counts exactly the outcomes held, whatever their timestamps and whatever the
clock reads from one operation to the next.  What is subtracted was therefore added before: the
partial operations always have a result, and it is that of the operations that run.

Main results:

- Theorem `Tally.remove?_eq_some_iff`: an outcome can be counted out exactly of what it was counted
  in to.
- Theorem `Buffer.Exact.evictWhile?_eq`: evicting outcomes one after the other never runs short and
  is the same as dropping them at once.
- Theorem `Window.Exact.access`: every operation keeps the tally exact.
- Theorem `Window.Exact.solvent`: no sequence of operations on a window with an exact tally runs
  short.
-/

namespace FailFast

/-! ## Counting out -/

namespace Tally

/-- Take one from a counter if an outcome was counted there; there is no result below zero. -/
def less? (counted : Bool) (n : Nat) : Option Nat := if counted then n.ppred else some n

/-- Count an outcome out, unless a counter would go below zero. -/
def remove? (slowAt : Nat) (t : Tally) (o : Outcome) : Option Tally := do
  let successes ← less? o.succeeded t.successes
  let failures ← less? (!o.succeeded) t.failures
  let slow ← less? (o.isSlow slowAt) t.slow
  return ⟨successes, failures, slow⟩

theorem less?_eq_some_iff {counted : Bool} {n rest : Nat} :
    less? counted n = some rest ↔ n = if counted then rest + 1 else rest := by
  cases counted with
  | false => simp [less?]
  | true => simpa [less?] using eq_comm

/-- An outcome can be counted out exactly of what it was counted in to. -/
theorem remove?_eq_some_iff {slowAt : Nat} {t rest : Tally} {o : Outcome} :
    t.remove? slowAt o = some rest ↔ t = rest.add slowAt o := by
  simp only [remove?, Option.bind_eq_bind, Option.bind_eq_some_iff, less?_eq_some_iff,
    Option.pure_def, Option.some.injEq]
  constructor
  · rintro ⟨successes, hsuccesses, failures, hfailures, slow, hslow, rfl⟩
    cases t
    simp only [add, mk.injEq]
    refine ⟨hsuccesses, hfailures.trans ?_, hslow⟩
    cases o.succeeded <;> rfl
  · rintro rfl
    refine ⟨rest.successes, rfl, rest.failures, ?_, rest.slow, rfl, rfl⟩
    simp only [add]
    cases o.succeeded <;> rfl

/-- What was counted in last can be counted out. -/
@[simp]
theorem remove?_add (slowAt : Nat) (t : Tally) (o : Outcome) :
    (t.add slowAt o).remove? slowAt o = some t :=
  remove?_eq_some_iff.mpr rfl

/-- A call that was counted as fast cannot be counted out as slow. -/
example : (Tally.empty.add 100 (.success 1 0)).remove? 0 (.success 1 0) = none := rfl

/-- A leading run can be counted out of the tally of a list, one outcome after the other. -/
theorem foldlM_remove?_leading (slowAt : Nat) (gone kept : List Outcome) :
    gone.foldlM (remove? slowAt) (ofOutcomes slowAt (gone ++ kept)) =
      some (ofOutcomes slowAt kept) := by
  induction gone with
  | nil => rfl
  | cons o gone ih =>
      rw [List.cons_append, List.foldlM_cons, ofOutcomes_cons, remove?_add]
      exact ih

end Tally

/-! ## Evicting one after the other -/

namespace Buffer

/-- Evict the oldest outcome, one after the other, as long as what is held calls for it. -/
def evictWhile? (slowAt : Nat) (more : List Outcome → Bool) : List Outcome → Tally → Option Buffer
  | [], t => some ⟨[], t⟩
  | o :: os, t =>
    if more (o :: os) then (t.remove? slowAt o).bind (evictWhile? slowAt more os)
    else some ⟨o :: os, t⟩

/-- Outcomes evicted from an exact buffer leave the tally of the rest. -/
theorem Exact.evict_eq {slowAt : Nat} {b : Buffer} (h : b.Exact slowAt) (count : Nat) :
    b.evict slowAt count =
      ⟨b.outcomes.drop count, .ofOutcomes slowAt (b.outcomes.drop count)⟩ :=
  congrArg (mk (b.outcomes.drop count)) (exact_evict h count)

/-- As long as the tally is exact, evicting outcomes one after the other does not run short, and it
ends where as many as are called for are dropped at once. -/
theorem Exact.evictWhile?_eq {slowAt : Nat} {b : Buffer} (h : b.Exact slowAt)
    (more : List Outcome → Bool) (count : List Outcome → Nat)
    (hmore : ∀ o os, more (o :: os) = true → count (o :: os) = count os + 1)
    (hstop : ∀ os, more os = false → count os = 0) :
    evictWhile? slowAt more b.outcomes b.tally = some (b.evict slowAt (count b.outcomes)) := by
  rw [h.evict_eq]
  rcases b with ⟨os, t⟩
  obtain rfl : t = Tally.ofOutcomes slowAt os := h
  dsimp only
  -- What one eviction leaves is again the tally of the outcomes still held.
  induction os with
  | nil => simp [evictWhile?]
  | cons o os ih =>
      cases hcalled : more (o :: os) with
      | false => simp [evictWhile?, hcalled, hstop _ hcalled]
      | true =>
          rw [evictWhile?, if_pos hcalled, Tally.ofOutcomes_cons, Tally.remove?_add,
            hmore o os hcalled, List.drop_succ_cons]
          exact ih

end Buffer

/-! ## The two kinds of windows -/

/-- Append an outcome and evict the oldest ones, one after the other, while more are held than the
capacity allows; no counter may go below zero. -/
def CountWindow.record? (w : CountWindow) (o : Outcome) : Option CountWindow :=
  let pushed := w.buffer.push w.slowAt o
  (Buffer.evictWhile? w.slowAt (fun os => decide (w.capacity < os.length))
    pushed.outcomes pushed.tally).map fun buffer => { w with buffer }

theorem CountWindow.record?_eq {w : CountWindow} (h : w.buffer.Exact w.slowAt) (o : Outcome) :
    w.record? o = some (w.record o) := by
  have hevicted := (Buffer.exact_push h o).evictWhile?_eq
    (fun os => decide (w.capacity < os.length)) (fun os => os.length - w.capacity)
  rw [record?, hevicted]
  · rfl
  · intro p os hmore
    simp only [List.length_cons, decide_eq_true_eq] at hmore ⊢
    omega
  · intro os hstop
    simp only [decide_eq_false_iff_not] at hstop
    omega

namespace TimeWindow

/-- Append an outcome and evict the oldest one, one after the other, while it is expired as of the
later of the clock and the new timestamp; no counter may go below zero. -/
def record? (w : TimeWindow) (now : Nat) (o : Outcome) : Option TimeWindow :=
  let pushed := w.buffer.push w.slowAt o
  let latest := max now o.timestamp
  (Buffer.evictWhile? w.slowAt (fun os => os.head?.any (expired w.span latest))
    pushed.outcomes pushed.tally).map fun buffer => { w with buffer }

/-- Count the expired front out of a copy of the tally, one outcome after the other; no counter may
go below zero. -/
def counts? (w : TimeWindow) (now : Nat) : Option Counts :=
  ((w.buffer.outcomes.takeWhile (expired w.span now)).foldlM (Tally.remove? w.slowAt)
    w.buffer.tally).map Tally.counts

theorem record?_eq {w : TimeWindow} (h : w.buffer.Exact w.slowAt) (now : Nat) (o : Outcome) :
    w.record? now o = some (w.record now o) := by
  have hevicted := (Buffer.exact_push h o).evictWhile?_eq
    (fun os => os.head?.any (expired w.span (max now o.timestamp)))
    (expiredFront w.span (max now o.timestamp))
  rw [record?, hevicted]
  · rfl
  · intro p os hmore
    simp only [List.head?_cons, Option.any_some] at hmore
    simp [expiredFront, hmore]
  · intro os hstop
    cases os with
    | nil => rfl
    | cons p os =>
        simp only [List.head?_cons, Option.any_some] at hstop
        simp [expiredFront, hstop]

theorem counts?_eq {w : TimeWindow} (h : w.buffer.Exact w.slowAt) (now : Nat) :
    w.counts? now = some (w.counts now) := by
  have hcounted := Tally.foldlM_remove?_leading w.slowAt
    (w.buffer.outcomes.take (expiredFront w.span now w.buffer.outcomes))
    (w.buffer.outcomes.drop (expiredFront w.span now w.buffer.outcomes))
  have hexact : w.buffer.tally = Tally.ofOutcomes w.slowAt w.buffer.outcomes := h
  rw [List.take_append_drop, ← hexact] at hcounted
  rw [counts?, takeWhile_expired, hcounted, Option.map_some, Tally.counts_ofOutcomes, counts_eq h]

end TimeWindow

/-! ## Windows in use -/

namespace Window

/-- What a window holds, with its tally. -/
def buffer : Window → Buffer
  | lastCalls w => w.buffer
  | lastMillis w => w.buffer

/-- The duration above which calls are slow. -/
def slowAt : Window → Nat
  | lastCalls w => w.slowAt
  | lastMillis w => w.slowAt

/-- An operation that reads or changes the tally, with the reading of the clock that it meets. -/
inductive Access where
  | record (now : Nat) (o : Outcome)
  | clear
  | counts (now : Nat)
deriving DecidableEq

/-- The window after an operation; reading the counts leaves it alone. -/
def access (w : Window) : Access → Window
  | .record now o => w.record now o
  | .clear => w.clear
  | .counts _ => w

/-- Several operations in order, at readings in any order. -/
def accessAll (w : Window) (xs : List Access) : Window := xs.foldl access w

/-- Append an outcome and let old ones go; no counter may go below zero. -/
def record? (now : Nat) (o : Outcome) : Window → Option Window
  | lastCalls w => (w.record? o).map lastCalls
  | lastMillis w => (w.record? now o).map lastMillis

/-- The counts at a reading; no counter may go below zero. -/
def counts? (now : Nat) : Window → Option Counts
  | lastCalls w => some w.counts
  | lastMillis w => w.counts? now

/-- The window after an operation in which no counter went below zero. -/
def access? (w : Window) : Access → Option Window
  | .record now o => w.record? now o
  | .clear => some w.clear
  | .counts now => (w.counts? now).map fun _ => w

/-- Several operations in order in which no counter went below zero. -/
def accessAll? (w : Window) (xs : List Access) : Option Window := xs.foldlM access? w

/-- Whatever is done with the window, no counter goes below zero on the way, and in the end a
reading does not take one there either and the tally counts what is held. -/
structure Solvent (w : Window) : Prop where
  accessed : ∀ xs, w.accessAll? xs = some (w.accessAll xs)
  read : ∀ xs now, (w.accessAll xs).counts? now = some ((w.accessAll xs).counts now)
  tallied : ∀ xs, (w.accessAll xs).buffer.tally.counts =
    Counts.ofOutcomes w.slowAt (w.accessAll xs).buffer.outcomes

/-- The tally of a window counts exactly the outcomes held. -/
def Exact (w : Window) : Prop := w.buffer.Exact w.slowAt

theorem exact_of_empty {w : Window} (h : w.buffer = .empty) : w.Exact := by
  rw [Exact, h]
  exact Buffer.exact_empty w.slowAt

@[simp]
theorem access_slowAt (w : Window) (x : Access) : (w.access x).slowAt = w.slowAt := by
  cases x <;> cases w <;> rfl

@[simp]
theorem accessAll_slowAt (w : Window) (xs : List Access) : (w.accessAll xs).slowAt = w.slowAt := by
  induction xs generalizing w with
  | nil => rfl
  | cons x xs ih => exact (ih (w.access x)).trans (w.access_slowAt x)

section Exact

variable {w : Window} (h : w.Exact)

include h

/-- Every operation keeps the tally exact. -/
theorem Exact.access (x : Access) : (w.access x).Exact := by
  cases x with
  | record now o =>
      cases w with
      | lastCalls w => exact CountWindow.exact_record h o
      | lastMillis w => exact TimeWindow.exact_record h now o
  | clear => cases w <;> exact Buffer.exact_empty _
  | counts now => exact h

theorem Exact.accessAll (xs : List Access) : (w.accessAll xs).Exact := by
  induction xs generalizing w with
  | nil => exact h
  | cons x xs ih => exact ih (h.access x)

theorem Exact.counts?_eq (now : Nat) : w.counts? now = some (w.counts now) := by
  cases w with
  | lastCalls w => rfl
  | lastMillis w => exact TimeWindow.counts?_eq h now

/-- No operation on a window with an exact tally runs short. -/
theorem Exact.access?_eq (x : Access) : w.access? x = some (w.access x) := by
  cases x with
  | record now o =>
      cases w with
      | lastCalls w => exact congrArg (Option.map lastCalls) (CountWindow.record?_eq h o)
      | lastMillis w => exact congrArg (Option.map lastMillis) (TimeWindow.record?_eq h now o)
  | clear => rfl
  | counts now => exact congrArg (Option.map fun _ => w) (h.counts?_eq now)

theorem Exact.accessAll?_eq (xs : List Access) : w.accessAll? xs = some (w.accessAll xs) := by
  induction xs generalizing w with
  | nil => rfl
  | cons x xs ih =>
      simp only [accessAll?, List.foldlM_cons, h.access?_eq x]
      exact ih (h.access x)

/-- No sequence of operations on a window with an exact tally runs short. -/
theorem Exact.solvent : w.Solvent where
  accessed := h.accessAll?_eq
  read xs := (h.accessAll xs).counts?_eq
  tallied xs := by
    rw [← accessAll_slowAt w xs]
    exact Buffer.counts_eq (h.accessAll xs)

end Exact

end Window

end FailFast
