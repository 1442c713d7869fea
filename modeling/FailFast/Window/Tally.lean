import FailFast.Outcome

/-!
# Running tallies

A buffer keeps outcomes in completion order and a tally beside them, so that reading the counts
never rescans the buffer.  The tally is adjusted by each outcome that enters or leaves.

Main results:

- `Tally.add_removes`: removing an outcome undoes adding it.
- `Buffer.exact_push`, `Buffer.exact_evict`, `Buffer.exact_empty`: a buffer whose tally counts its
  outcomes stays so.
- `Buffer.counts_eq`: the counts of such a buffer are those of its outcomes.
-/

namespace FailFast

/-- Counters of the outcomes held in a buffer. -/
structure Tally where
  successes : Nat
  failures : Nat
  slow : Nat
deriving DecidableEq, Inhabited

namespace Tally

/-- Nothing counted. -/
def empty : Tally := ⟨0, 0, 0⟩

/-- Count an outcome in. -/
def add (slowAt : Nat) (t : Tally) (o : Outcome) : Tally where
  successes := if o.succeeded then t.successes + 1 else t.successes
  failures := if o.succeeded then t.failures else t.failures + 1
  slow := if o.isSlow slowAt then t.slow + 1 else t.slow

/-- Count an outcome out. -/
def remove (slowAt : Nat) (t : Tally) (o : Outcome) : Tally where
  successes := if o.succeeded then t.successes - 1 else t.successes
  failures := if o.succeeded then t.failures else t.failures - 1
  slow := if o.isSlow slowAt then t.slow - 1 else t.slow

/-- The tally of a list of outcomes. -/
def ofOutcomes (slowAt : Nat) (os : List Outcome) : Tally := os.foldl (add slowAt) empty

/-- The counts that a tally stands for. -/
def counts (t : Tally) : Counts where
  total := t.successes + t.failures
  successes := t.successes
  failures := t.failures
  slow := t.slow

@[simp]
theorem add_removes (slowAt : Nat) (t : Tally) (o : Outcome) :
    (t.add slowAt o).remove slowAt o = t := by
  cases t
  simp only [add, remove, mk.injEq]
  refine ⟨?_, ?_, ?_⟩ <;> split <;> simp_all

theorem add_comm (slowAt : Nat) (t : Tally) (a b : Outcome) :
    (t.add slowAt a).add slowAt b = (t.add slowAt b).add slowAt a := by
  simp only [add, mk.injEq]
  refine ⟨?_, ?_, ?_⟩ <;> split <;> split <;> simp_all

theorem foldl_add (slowAt : Nat) (t : Tally) (o : Outcome) (os : List Outcome) :
    os.foldl (add slowAt) (t.add slowAt o) = (os.foldl (add slowAt) t).add slowAt o := by
  induction os generalizing t with
  | nil => rfl
  | cons p os ih => rw [List.foldl_cons, List.foldl_cons, add_comm, ih]

@[simp]
theorem ofOutcomes_nil (slowAt : Nat) : ofOutcomes slowAt [] = empty := rfl

theorem ofOutcomes_cons (slowAt : Nat) (o : Outcome) (os : List Outcome) :
    ofOutcomes slowAt (o :: os) = (ofOutcomes slowAt os).add slowAt o :=
  foldl_add slowAt empty o os

theorem ofOutcomes_concat (slowAt : Nat) (os : List Outcome) (o : Outcome) :
    ofOutcomes slowAt (os ++ [o]) = (ofOutcomes slowAt os).add slowAt o := by
  simp [ofOutcomes]

/-- Removing a leading run leaves the tally of the rest. -/
theorem removes_leading (slowAt : Nat) (gone kept : List Outcome) :
    gone.foldl (remove slowAt) (ofOutcomes slowAt (gone ++ kept)) = ofOutcomes slowAt kept := by
  induction gone with
  | nil => rfl
  | cons o gone ih => rw [List.cons_append, List.foldl_cons, ofOutcomes_cons, add_removes, ih]

theorem successes_ofOutcomes (slowAt : Nat) (os : List Outcome) :
    (ofOutcomes slowAt os).successes = os.countP (·.succeeded) := by
  induction os with
  | nil => rfl
  | cons o os ih => simp only [ofOutcomes_cons, add, List.countP_cons, ih]; split <;> rfl

theorem failures_ofOutcomes (slowAt : Nat) (os : List Outcome) :
    (ofOutcomes slowAt os).failures = os.countP (!·.succeeded) := by
  induction os with
  | nil => rfl
  | cons o os ih =>
    simp only [ofOutcomes_cons, add, List.countP_cons, ih]
    cases o.succeeded <;> rfl

theorem slow_ofOutcomes (slowAt : Nat) (os : List Outcome) :
    (ofOutcomes slowAt os).slow = os.countP (·.isSlow slowAt) := by
  induction os with
  | nil => rfl
  | cons o os ih => simp only [ofOutcomes_cons, add, List.countP_cons, ih]; split <;> rfl

theorem counts_ofOutcomes (slowAt : Nat) (os : List Outcome) :
    (ofOutcomes slowAt os).counts = Counts.ofOutcomes slowAt os := by
  have total : os.length = os.countP (·.succeeded) + os.countP (!·.succeeded) := by
    rw [List.length_eq_countP_add_countP (·.succeeded)]
    simp
  simp [counts, Counts.ofOutcomes, successes_ofOutcomes, failures_ofOutcomes, slow_ofOutcomes,
    total]

end Tally

/-! ## Buffers -/

/-- Outcomes in completion order with their tally. -/
structure Buffer where
  outcomes : List Outcome
  tally : Tally
deriving DecidableEq, Inhabited

namespace Buffer

/-- No outcomes. -/
def empty : Buffer := ⟨[], .empty⟩

/-- Append an outcome. -/
def push (slowAt : Nat) (b : Buffer) (o : Outcome) : Buffer :=
  ⟨b.outcomes ++ [o], b.tally.add slowAt o⟩

/-- Drop the oldest outcomes. -/
def evict (slowAt : Nat) (b : Buffer) (count : Nat) : Buffer :=
  ⟨b.outcomes.drop count, (b.outcomes.take count).foldl (Tally.remove slowAt) b.tally⟩

/-- The tally of a buffer counts exactly its outcomes. -/
def Exact (slowAt : Nat) (b : Buffer) : Prop := b.tally = Tally.ofOutcomes slowAt b.outcomes

theorem exact_empty (slowAt : Nat) : empty.Exact slowAt := rfl

theorem exact_push {slowAt : Nat} {b : Buffer} (h : b.Exact slowAt) (o : Outcome) :
    (b.push slowAt o).Exact slowAt := by
  simp only [Exact, push] at h ⊢
  rw [Tally.ofOutcomes_concat, h]

theorem exact_evict {slowAt : Nat} {b : Buffer} (h : b.Exact slowAt) (count : Nat) :
    (b.evict slowAt count).Exact slowAt := by
  have leading := Tally.removes_leading slowAt (b.outcomes.take count) (b.outcomes.drop count)
  rw [List.take_append_drop] at leading
  simp only [Exact, evict] at h ⊢
  rw [h, leading]

theorem counts_eq {slowAt : Nat} {b : Buffer} (h : b.Exact slowAt) :
    b.tally.counts = Counts.ofOutcomes slowAt b.outcomes := by
  rw [h, Tally.counts_ofOutcomes]

end Buffer

end FailFast
