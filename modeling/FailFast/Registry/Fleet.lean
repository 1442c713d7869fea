import FailFast.Circuit
import FailFast.Registry.Broadcast

/-!
# Fleets

A fleet is every circuit that was made so far, in the order of making, at one instant.  A circuit is
known by its number, so that a circuit that was replaced under its name can still be used by those
who hold it.  Operations append to one journal, and the transitions of circuits that publish go to
one channel.  One operation returns before the next one begins; what becomes of operations that
others come in between of is the subject of `FailFast.Proofs.Management.Crowd`.

Main results:

- `Fleet.perform_size`: operating on circuits neither makes nor loses any.
- `Fleet.perform_other`: operating on one circuit leaves the others alone.
-/

namespace FailFast

/-- All circuits at an instant. -/
structure Fleet where
  instant : Instant
  circuits : List Circuit
  channel : Channel
  journal : Journal
deriving Inhabited

namespace Fleet

/-- No circuits. -/
def start (channel : Channel) : Fleet := ⟨0, [], channel, []⟩

/-- Let time pass. -/
def wait (f : Fleet) (d : Duration) : Fleet := { f with instant := f.instant + d.nanos }

/-- Add a note. -/
def note (f : Fleet) (n : Note) : Fleet := { f with journal := f.journal ++ [n] }

/-- Add a circuit; its number is the former size. -/
def add (f : Fleet) (c : Circuit) : Fleet := { f with circuits := f.circuits ++ [c] }

/-- Operate on one circuit, at the end of which it may be later; there is no answer when there is no
such circuit. -/
def perform {α : Type} (f : Fleet) (i : Nat)
    (operation : Circuit → Instant → Returned α) : Fleet × Option α :=
  match f.circuits[i]? with
  | none => (f, none)
  | some c =>
    let (c', instant, notes, answer) := operation c f.instant
    ({ f with
        instant
        circuits := f.circuits.set i c'
        journal := f.journal ++ notes
        channel :=
          if c.callbacks.publishes then f.channel.publish notes.transitions else f.channel },
      some answer)

/-- Operate on one circuit without an answer. -/
def change (f : Fleet) (i : Nat) (operation : Circuit → Instant → Returned Unit) : Fleet :=
  (f.perform i operation).1

/-- The metrics of one circuit. -/
def metrics? (f : Fleet) (i : Nat) : Option Metrics := f.circuits[i]?.map (·.metrics f.instant)

@[simp]
theorem perform_size {α : Type} (f : Fleet) (i : Nat)
    (operation : Circuit → Instant → Returned α) :
    (f.perform i operation).1.circuits.length = f.circuits.length := by
  simp only [perform]
  split <;> simp

theorem perform_other {α : Type} (f : Fleet) {i j : Nat} (h : i ≠ j)
    (operation : Circuit → Instant → Returned α) :
    (f.perform i operation).1.circuits[j]? = f.circuits[j]? := by
  simp only [perform]
  split
  · rfl
  · simp [h]

end Fleet

end FailFast
