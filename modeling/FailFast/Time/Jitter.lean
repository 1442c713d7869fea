import FailFast.Time.Duration
import FailFast.Number.Binary64

/-!
# Jittered waits

A jittered wait keeps the share `1 - jitter` of its length and adds a random part of the rest:
`wait * (1 - jitter + draw * jitter)`, each operation rounded, and whole milliseconds kept.

A draw is a number below one with 53 binary places.

Main results:

- `jittered_le`: a jittered wait is a word.
-/

namespace FailFast

/-- A random number below one, counted in units of `1 / drawCount`. -/
abbrev Draw := Nat

/-- The number of different draws. -/
def drawCount : Nat := 1 <<< 53

/-- The draws of a breaker, one for each of its generations. -/
abbrev Draws := Nat → Draw

/-- The draws that are all one half. -/
def Draws.halves : Draws := fun _ => drawCount / 2

/-- A wait in milliseconds under a jitter and a draw. -/
def jittered (wait : Nat) (jitter : Binary64) (draw : Draw) : Nat :=
  let one := Binary64.unitsInOne
  let spread := match jitter with
    | .signed false rank => Binary64.magnitude rank
    | _ => 0
  let kept := Binary64.magnitude (Binary64.rankOfRatio (one - spread) one)
  let added := Binary64.magnitude (Binary64.rankOfRatio (draw * spread) (drawCount * one))
  let share := Binary64.rankOfRatio (kept + added) one
  min (Binary64.magnitude (Binary64.rankProduct (Binary64.rankOfNat wait) share) / one) maxWord

theorem jittered_le (wait : Nat) (jitter : Binary64) (draw : Draw) :
    jittered wait jitter draw ≤ maxWord :=
  Nat.min_le_right _ _

end FailFast
