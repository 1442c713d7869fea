import FailFast.Scenario.Session

/-!
# Sweeping in the background

A sweeper applies the transitions due to all registered circuits that probe by themselves: at once
when it is started, then once every period.  When the registry is gone it stops at its next turn.
Later sweeps happen only while time passes for background work.

Background work sleeps for thirty years at most: a longer sleep, or a longer period between two
sweeps, is over by then.  Timeouts have no such limit.

Main results:

- `Session.wakeTime_le_deadline`: a sleep is over no later than a timeout of the same length.
- `Session.moveTo_timer`: moving to a time ends at that time.
- `Session.sweepsBefore_zero`: nothing is due before the beginning of time.
-/

namespace FailFast.Session

/-- The milliseconds of the longest sleep: thirty years of 365 days. -/
def longestSleep : Nat := 30 * 365 * 24 * 60 * 60 * 1000

/-- When a sleep is over that begins now; one that is too long ends early. -/
def wakeTime (s : Session) (d : Duration) : Nat := s.timer + min d.millisUp longestSleep

/-- When a timeout has passed that begins now. -/
def deadline (s : Session) (d : Duration) : Nat := s.timer + d.millisUp

theorem wakeTime_le_deadline (s : Session) (d : Duration) : s.wakeTime d ≤ s.deadline d :=
  Nat.add_le_add_left (Nat.min_le_left _ _) _

theorem wakeTime_of_le {s : Session} {d : Duration} (h : d.millisUp ≤ longestSleep) :
    s.wakeTime d = s.deadline d := by
  rw [wakeTime, Nat.min_eq_left h, deadline]

/-- Let both kinds of time reach a point of background time. -/
def moveTo (s : Session) (time : Nat) : Session :=
  { s with timer := time, fleet := s.fleet.wait (.ofMillis (time - s.timer)) }

@[simp]
theorem moveTo_timer (s : Session) (time : Nat) : (s.moveTo time).timer = time := rfl

/-- The turn of one sweeper. -/
def sweep (s : Session) (k : Nat) : Session :=
  match s.registry with
  | some r =>
    { s with
      fleet := r.checkAll s.fleet
      sweepers := s.sweepers.modify k fun w => { w with due := s.wakeTime w.period } }
  | none =>
    { s with
      fleet := s.fleet.note .sweeperStopped
      sweepers := s.sweepers.modify k fun w => { w with finished := true } }

/-- The sweeper whose turn is next, with the time of that turn; of several the first. -/
def nextSweep (s : Session) : Option (Nat × Nat) :=
  let turns := s.sweepers.zipIdx.filterMap fun (w, k) =>
    if w.finished then none else some (w.due, k)
  turns.foldl (fun best turn =>
    match best with
    | none => some turn
    | some b => if turn.1 < b.1 then some turn else some b) none

/-- Run the sweeps that are due before a time, in at most `fuel` turns. -/
def sweepsWithin : Nat → Nat → Session → Session
  | 0, _, s => s
  | fuel + 1, time, s =>
    match s.nextSweep with
    | none => s
    | some (due, k) => if due < time then sweepsWithin fuel time ((s.moveTo due).sweep k) else s

/-- Run the sweeps that are due before a time. -/
def sweepsBefore (s : Session) (time : Nat) : Session :=
  sweepsWithin (s.sweepers.length * (time - s.timer)) time s

theorem sweepsBefore_zero (s : Session) : s.sweepsBefore 0 = s := by
  simp [sweepsBefore, sweepsWithin]

/-- Let time pass up to a point; what is due at that very point comes after. -/
def passTo (s : Session) (time : Nat) : Session := (s.sweepsBefore time).moveTo time

/-- End background work: what is due by now has run. -/
def endBackground (s : Session) : Session := s.sweepsBefore (s.timer + 1)

/-- Start a sweeper of a period. -/
def startSweeper (s : Session) (period : Duration) : Session :=
  endBackground { s with sweepers := s.sweepers ++ [⟨period, s.timer, false⟩] }

/-- Let time pass. -/
def sleep (s : Session) (d : Duration) : Session :=
  (s.passTo (s.wakeTime d)).endBackground

end FailFast.Session
