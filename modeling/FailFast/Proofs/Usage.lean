import Mathlib.Data.List.InsertIdx
import FailFast.Proofs.Run.Callbacks
import FailFast.Proofs.Run.Stale

/-!
# Circuits in use

Callers take permits from a circuit, keep them for as long as they like, and use each of them up
once.  A guarded call is a permit taken and, unless it was refused, used up when the operation ends;
other callers may do anything in between.  Whatever callers do, in any order and with any callbacks
and classifier, is a run of the breaker in which the same permits are outside.  So what holds in
every run holds of every circuit in use.

Main results:

- Theorem `Usage.Tracks.use`: each thing that a caller does is a sequence of acts that its notes
  tell.
- Theorem `Usage.Reachable.tracked`: whatever callers make of a circuit is a run of its breaker.
- Theorem `Usage.Reachable.allStale`: while a circuit is open no caller holds a live permit.
-/

namespace FailFast

/-! ## Uses -/

/-- What callers do with a circuit; a caller without a permit cannot use one up. -/
inductive Use where
  | wait (d : Duration)
  | acquire
  | complete (i : Nat) (how : Completion)
  /-- Give up a call after its timeout. -/
  | timeOut (i : Nat) (timeout : Duration)
  | fault (i : Nat) (fault : Fault)
  /-- Hand back a permit: it was released or dropped, or its call was cancelled. -/
  | release (i : Nat)
  | check
  | forceOpen
  | reset
deriving DecidableEq, Inhabited

/-- A use of a circuit, with its callbacks as they are disposed then. -/
structure Turn where
  callbacks : Callbacks
  use : Use

/-- What a caller is told. -/
inductive Reply where
  | nothing
  | granted
  | rejected (r : Rejection)
  | state (s : State)
deriving DecidableEq, Inhabited

/-- A circuit with the permits that callers hold, newest first. -/
structure Usage where
  circuit : Circuit
  instant : Instant
  permits : List Permit
deriving Inhabited

namespace Usage

/-- The reading of the clock. -/
def now (u : Usage) : Nat := u.circuit.now u.instant

/-- Operate on the circuit; it is later then, if a hook took its time. -/
def operate {α : Type} (u : Usage) (operation : Circuit → Instant → Returned α)
    (reply : α → Reply) : Usage × Journal × Reply :=
  let (circuit, instant, notes, answer) := operation u.circuit u.instant
  ({ u with circuit, instant }, notes, reply answer)

/-- Use up a permit, if a caller holds it. -/
def spend (u : Usage) (i : Nat) (operation : Permit → Returned Unit) :
    Usage × Journal × Reply :=
  match u.permits[i]? with
  | none => (u, [], .nothing)
  | some p =>
    let (circuit, instant, notes, _) := operation p
    ({ circuit, instant, permits := u.permits.eraseIdx i }, notes, .nothing)

/-- Do one thing with a circuit; the answer is what was noted and what the caller is told. -/
def step (u : Usage) : Use → Usage × Journal × Reply
  | .wait d => ({ u with instant := u.instant + d.nanos }, [], .nothing)
  | .acquire =>
    let (circuit, instant, notes, answer) := u.circuit.acquire u.instant
    match answer with
    | .ok p => ({ circuit, instant, permits := p :: u.permits }, notes, .granted)
    | .error r => ({ u with circuit, instant }, notes, .rejected r)
  | .complete i how => u.spend i fun p => u.circuit.complete u.instant p how
  | .timeOut i timeout => u.spend i fun p => u.circuit.timeOut u.instant p timeout
  | .fault i fault => u.spend i fun p => u.circuit.fault u.instant p fault
  | .release i => u.spend i fun p => u.circuit.release u.instant p
  | .check => u.operate Circuit.check .state
  | .forceOpen => u.operate Circuit.forceOpen fun _ => .nothing
  | .reset => u.operate Circuit.reset fun _ => .nothing

/-- The circuit after something was done with it. -/
def use (u : Usage) (x : Use) : Usage := (u.step x).1

/-- What is noted when something is done with a circuit. -/
def notes (u : Usage) (x : Use) : Journal := (u.step x).2.1

/-- What the caller is told. -/
def reply (u : Usage) (x : Use) : Reply := (u.step x).2.2

/-- Several uses in order. -/
def uses (u : Usage) (xs : List Use) : Usage := xs.foldl use u

/-- A new circuit, of which no caller holds a permit; its jittered waits depend on the draws. -/
def start (name : String) (config : Config) (draws : Draws) (callbacks : Callbacks)
    (classifier : Option Classifier) (instant : Instant) : Usage where
  circuit :=
    { Circuit.fresh name config callbacks classifier instant with
      breaker := .fresh name config draws (Clock.reading ⟨instant⟩ instant) }
  instant := instant
  permits := []

/-- Using a circuit changes nothing of it but the breaker. -/
theorem use_circuit (u : Usage) (x : Use) :
    (u.use x).circuit = { u.circuit with breaker := (u.use x).circuit.breaker } := by
  have hspend : ∀ (i : Nat) (operation : Permit → Scene → Announcer → Scene × Unit),
      (u.spend i fun p => u.circuit.perform u.instant (operation p)).1.circuit =
        { u.circuit with
          breaker :=
            (u.spend i fun p => u.circuit.perform u.instant (operation p)).1.circuit.breaker } := by
    intro i operation
    unfold spend
    cases u.permits[i]? <;> rfl
  cases x with
  | wait d => rfl
  | acquire =>
      simp only [use, step, Circuit.acquire, Circuit.perform]
      generalize Scene.acquire _ _ = answer
      obtain ⟨s, verdict⟩ := answer
      cases verdict <;> rfl
  | complete i how => exact hspend i _
  | timeOut i timeout => exact hspend i _
  | fault i fault => exact hspend i _
  | release i => exact hspend i _
  | check => rfl
  | forceOpen => rfl
  | reset => rfl

/-- Nor do several uses. -/
theorem uses_circuit (u : Usage) (xs : List Use) :
    (u.uses xs).circuit = { u.circuit with breaker := (u.uses xs).circuit.breaker } := by
  induction xs generalizing u with
  | nil => rfl
  | cons x rest ih =>
      refine (ih (u.use x)).trans ?_
      rw [use_circuit u x]
      rfl

/-- Using a circuit does not change how its callbacks are disposed. -/
theorem uses_callbacks (u : Usage) (xs : List Use) :
    (u.uses xs).circuit.callbacks = u.circuit.callbacks := by
  rw [uses_circuit]

/-- A use finds the clock that the uses before it left. -/
theorem use_clock (u : Usage) (x : Use) : (u.use x).circuit.clock = u.circuit.clock := by
  rw [use_circuit]

/-- The clock of the circuit did not wrap yet. -/
def Unwrapped (u : Usage) : Prop :=
  (u.instant - u.circuit.clock.anchor) / 1000000 < wordCount

/-! ## The scene of a use -/

/-- The scene in which a use begins. -/
def scene (u : Usage) : Scene := u.circuit.scene u.instant

@[simp]
theorem scene_breaker (u : Usage) : u.scene.breaker = u.circuit.breaker := rfl

@[simp]
theorem scene_now (u : Usage) : u.scene.now = u.now := rfl

/-- The scene in which a permit is used up, if a caller holds it. -/
def closingOf (u : Usage) (i : Nat) (after : Permit → Scene) : Scene :=
  match u.permits[i]? with
  | none => u.scene
  | some p => after p

/-- The scene in which a use ends. -/
def closing (u : Usage) : Use → Scene
  | .wait d => u.scene.wait d
  | .acquire => (u.scene.acquire u.circuit.announcer).1
  | .complete i how => u.closingOf i fun p =>
    u.scene.complete u.circuit.announcer p.generation (how = .succeeded) (how = .timedOut)
      (p.elapsed u.instant)
  | .timeOut i timeout => u.closingOf i fun p =>
    (u.scene.note (.timedOut u.circuit.breaker.name timeout)).complete u.circuit.announcer
      p.generation false true (p.elapsed u.instant)
  | .fault i fault => u.closingOf i fun p =>
    u.scene.fault u.circuit.announcer u.circuit.classifier p.generation fault (p.elapsed u.instant)
  | .release i => u.closingOf i fun p => u.scene.release p.generation
  | .check => (u.scene.check u.circuit.announcer).1
  | .forceOpen => u.scene.forceOpen u.circuit.announcer
  | .reset => u.scene.reset u.circuit.announcer

/-- A use takes over from the scene in which it ends. -/
theorem use_eq_closing (u : Usage) (x : Use) :
    (u.use x).circuit.breaker = (u.closing x).breaker ∧
      (u.use x).instant = (u.closing x).instant ∧ u.notes x = (u.closing x).journal := by
  have hspend : ∀ (i : Nat) (operation : Permit → Scene → Announcer → Scene × Unit),
      let after := u.spend i fun p => u.circuit.perform u.instant (operation p)
      let last := u.closingOf i fun p => (operation p u.scene u.circuit.announcer).1
      after.1.circuit.breaker = last.breaker ∧ after.1.instant = last.instant ∧
        after.2.1 = last.journal := by
    intro i operation
    unfold spend closingOf
    cases u.permits[i]? <;> exact ⟨rfl, rfl, rfl⟩
  cases x with
  | acquire =>
      simp only [use, notes, step, closing, scene, Circuit.acquire, Circuit.perform]
      generalize Scene.acquire _ _ = answer
      obtain ⟨s, verdict⟩ := answer
      cases verdict <;> exact ⟨rfl, rfl, rfl⟩
  | complete i how => exact hspend i _
  | timeOut i timeout => exact hspend i _
  | fault i fault => exact hspend i _
  | release i => exact hspend i _
  | wait d => exact ⟨rfl, rfl, rfl⟩
  | check => exact ⟨rfl, rfl, rfl⟩
  | forceOpen => exact ⟨rfl, rfl, rfl⟩
  | reset => exact ⟨rfl, rfl, rfl⟩

/-! ## Attempts -/

/-- With any callbacks the answer to an attempt is the one that the breaker gives. -/
theorem reply_acquire (u : Usage) :
    u.reply .acquire = match (u.circuit.breaker.attempt u.now).2 with
      | .granted _ => .granted
      | .rejected state retryAfter =>
        .rejected ⟨(u.use .acquire).circuit.breaker.name, state, retryAfter⟩ := by
  simp only [reply, use, step, Circuit.acquire, Circuit.perform, Scene.acquire,
    Circuit.scene_breaker, Circuit.scene_now]
  rw [now]
  rcases u.circuit.breaker.attempt (u.circuit.now u.instant) with ⟨m, verdict⟩
  cases verdict <;> rfl

/-- A refusal without a transition is counted, and no callback is told of it. -/
theorem step_refused {u : Usage} {state : State} {retryAfter : Duration}
    (h : u.circuit.breaker.attempt u.now =
      (u.circuit.breaker.stays, .rejected state retryAfter)) :
    u.step .acquire =
      ({ u with circuit := { u.circuit with breaker := u.circuit.breaker.countRejection } },
        [.rejected ⟨u.circuit.breaker.name, state, retryAfter⟩],
        .rejected ⟨u.circuit.breaker.name, state, retryAfter⟩) := by
  rw [now] at h
  simp only [step, Circuit.acquire, Circuit.perform, Scene.acquire, Circuit.scene_breaker,
    Circuit.scene_now, h]
  rfl

/-- A circuit in use whose callbacks are disposed in another way. -/
def under (u : Usage) (c : Callbacks) : Usage :=
  { u with circuit := { u.circuit with callbacks := c } }

/-- Use a circuit with its callbacks as they are disposed then. -/
def turn (u : Usage) (t : Turn) : Usage := (u.under t.callbacks).use t.use

/-- Several such uses in order. -/
def turns (u : Usage) (ts : List Turn) : Usage := ts.foldl turn u

/-- The state of the circuit. -/
def state (u : Usage) : State := u.circuit.breaker.state

/-- What callers can make of a new circuit of a configuration.  What hooks do may depend on all that
happened before, so callbacks may be disposed in another way before each use. -/
inductive Reachable (config : Config) : Usage → Prop where
  | start (name : String) (draws : Draws) (callbacks : Callbacks) (classifier : Option Classifier)
      (instant : Instant) :
      Reachable config (start name config draws callbacks classifier instant)
  | use {u : Usage} (x : Use) (h : Reachable config u) : Reachable config (u.use x)
  | under {u : Usage} (c : Callbacks) (h : Reachable config u) : Reachable config (u.under c)

/-- Several uses of what callers made of a circuit. -/
theorem Reachable.uses {config : Config} {u : Usage} (h : u.Reachable config) (xs : List Use) :
    (u.uses xs).Reachable config := by
  induction xs generalizing u with
  | nil => exact h
  | cons x rest ih => exact ih (h.use x)

/-! ## Uses as acts -/

/-- A run is about the breaker, the clock and the permits of a circuit in use. -/
structure Tracks (r : Run) (u : Usage) : Prop where
  breaker : r.breaker = u.circuit.breaker
  clock : r.clock = u.circuit.clock
  instant : r.instant = u.instant
  permits : r.tickets.map Ticket.permit = u.permits

/-- Both read the same clock. -/
theorem Tracks.now_eq {r : Run} {u : Usage} (h : Tracks r u) : r.now = u.now := by
  rw [Run.now, Usage.now, Circuit.now, h.clock, h.instant]

/-- Both clocks did not wrap. -/
theorem Tracks.unwrapped_iff {r : Run} {u : Usage} (h : Tracks r u) :
    r.Unwrapped ↔ u.Unwrapped := by
  rw [Run.Unwrapped, Unwrapped, h.clock, h.instant]

/-- A new circuit is a run in which nothing happened yet. -/
theorem tracks_start (name : String) (config : Config) (draws : Draws) (callbacks : Callbacks)
    (classifier : Option Classifier) (instant : Instant) :
    Tracks (.start name config draws instant)
      (start name config draws callbacks classifier instant) :=
  ⟨rfl, rfl, rfl, rfl⟩

section Uses

variable {r : Run} {u : Usage} (h : Tracks r u) {P : Scene → Prop}

include h

/-- The scene in which a use begins shows the run. -/
theorem Tracks.shows (hstart : P u.scene) : Run.Shows P r u.scene :=
  ⟨hstart, h.breaker, h.clock, h.instant⟩

/-- Acts that lead to the scene in which a use ends lead to the circuit after it. -/
theorem Tracks.follow {x : Use} {tickets : List Ticket}
    (hleads : r.LeadsTo P tickets (u.closing x))
    (hpermits : tickets.map Ticket.permit = (u.use x).permits) :
    ∃ as, Tracks (r.acts as) (u.use x) ∧ P (u.closing x) := by
  obtain ⟨hbreaker, hinstant, _⟩ := u.use_eq_closing x
  obtain ⟨next, hnext, hreached⟩ := hleads
  obtain ⟨as, rfl⟩ := hnext.acts
  refine ⟨as, ⟨?_, ?_, ?_, ?_⟩, hreached.kept⟩
  · exact hreached.breaker.trans hbreaker.symm
  · rw [use_clock, ← h.clock]
    exact r.acts_clock as
  · exact hreached.instant.trans hinstant.symm
  · rw [hnext.tickets]
    exact hpermits

/-- Using up a permit is tracked if the operation is. -/
theorem Tracks.spend (hstart : P u.scene) {x : Use} {i : Nat} {operation : Permit → Returned Unit}
    {after : Permit → Scene} (hstep : u.step x = u.spend i operation)
    (hclosing : u.closing x = u.closingOf i after)
    (hleads : ∀ t, r.tickets[i]? = some t →
      r.LeadsTo P (r.tickets.eraseIdx i) (after t.permit)) :
    ∃ as, Tracks (r.acts as) (u.use x) ∧ P (u.closing x) := by
  have hlookup : u.permits[i]? = r.tickets[i]?.map Ticket.permit := by
    rw [← h.permits, List.getElem?_map]
  cases ht : r.tickets[i]? with
  | none =>
      refine ⟨[], ?_, ?_⟩
      · rw [use, hstep, Usage.spend, hlookup, ht]
        exact h
      · rw [hclosing, closingOf, hlookup, ht]
        exact hstart
  | some t =>
      have hspent := hleads t ht
      refine h.follow (?_ : r.LeadsTo P (r.tickets.eraseIdx i) (u.closing x)) ?_
      · rw [hclosing, closingOf, hlookup, ht]
        exact hspent
      · rw [use, hstep, Usage.spend, hlookup, ht]
        show (r.tickets.eraseIdx i).map Ticket.permit = u.permits.eraseIdx i
        rw [← h.permits, List.eraseIdx_map]

omit h in
/-- A permit that is granted is in the hands of a caller from when its transition was announced. -/
theorem permits_of_granted {generation : Nat}
    (hverdict : (u.scene.acquire u.circuit.announcer).2 = .ok generation) :
    (u.use .acquire).permits =
      ⟨generation, (u.scene.acquire u.circuit.announcer).1.instant⟩ :: u.permits := by
  simp only [Usage.use, Usage.step, Circuit.acquire, Circuit.perform, scene] at hverdict ⊢
  rw [hverdict]
  rfl

omit h in
/-- A rejection leaves the permits in the hands of callers. -/
theorem permits_of_rejected {rejection : Rejection}
    (hverdict : (u.scene.acquire u.circuit.announcer).2 = .error rejection) :
    (u.use .acquire).permits = u.permits := by
  simp only [Usage.use, Usage.step, Circuit.acquire, Circuit.perform, scene] at hverdict ⊢
  rw [hverdict]
  rfl

/-- Whatever callers do with a circuit is a sequence of acts on its breaker, and what is kept while
callbacks only watch is kept all the while. -/
theorem Tracks.use (hP : Scene.Invariant u.circuit.callbacks P) (hstart : P u.scene) (x : Use) :
    ∃ as, Tracks (r.acts as) (u.use x) ∧ P (u.closing x) := by
  have hplays := Run.plays_announce u.circuit.callbacks u.circuit.classifier
    u.circuit.callbacks.depth
  have hshows := h.shows hstart
  cases x with
  | wait d =>
      exact ⟨[.wait d], ⟨h.breaker, h.clock, congrArg (· + d.nanos) h.instant, h.permits⟩,
        hP.wait _ d hstart⟩
  | acquire =>
      have hacquire := hplays.acquire hP hshows
      cases hverdict : (u.scene.acquire (u.circuit.callbacks.announce u.circuit.classifier
          u.circuit.callbacks.depth)).2 with
      | error rejection =>
          rw [hverdict] at hacquire
          exact h.follow hacquire (h.permits.trans (permits_of_rejected hverdict).symm)
      | ok generation =>
          rw [hverdict] at hacquire
          obtain ⟨mark, hgranted⟩ := hacquire
          apply h.follow hgranted
          rw [permits_of_granted hverdict, List.map_cons, h.permits]
          rfl
  | complete i how =>
      have hstep : u.step (.complete i how) =
          u.spend i fun p => u.circuit.complete u.instant p how := rfl
      refine h.spend hstart hstep rfl ?_
      intro t ht
      rw [← h.instant]
      exact hplays.complete hP hshows ht how
  | timeOut i timeout =>
      have hstep : u.step (.timeOut i timeout) =
          u.spend i fun p => u.circuit.timeOut u.instant p timeout := rfl
      refine h.spend hstart hstep rfl ?_
      intro t ht
      rw [← h.instant]
      exact hplays.complete hP (hshows.note hP rfl) ht .timedOut
  | fault i fault =>
      have hstep : u.step (.fault i fault) =
          u.spend i fun p => u.circuit.fault u.instant p fault := rfl
      refine h.spend hstart hstep rfl ?_
      intro t ht
      rw [← h.instant]
      exact hplays.fault hP hshows ht u.circuit.classifier fault
  | release i =>
      have hstep : u.step (.release i) = u.spend i fun p => u.circuit.release u.instant p := rfl
      refine h.spend hstart hstep rfl ?_
      intro t ht
      exact hshows.release hP ht
  | check => exact h.follow (hplays.check hP hshows) h.permits
  | forceOpen => exact h.follow (hplays.forceOpen hP hshows) h.permits
  | reset => exact h.follow (hplays.reset hP hshows) h.permits

end Uses

/-- Acts lead from a run to the circuit after a use. -/
theorem Tracks.exists_acts {r : Run} {u : Usage} (h : Tracks r u) (x : Use) :
    ∃ as, Tracks (r.acts as) (u.use x) := by
  have hnothing : Scene.Invariant u.circuit.callbacks fun _ => True :=
    ⟨fun _ _ _ => trivial, fun _ _ _ _ => trivial, fun _ _ _ _ => trivial,
      fun _ _ _ _ => trivial, fun _ _ => trivial⟩
  obtain ⟨as, hnext, _⟩ := h.use hnothing trivial x
  exact ⟨as, hnext⟩

/-- So what is kept while callbacks only watch is kept by every use. -/
theorem closing_induction {u : Usage} {P : Scene → Prop}
    (hP : Scene.Invariant u.circuit.callbacks P) (hstart : P u.scene) (x : Use) :
    P (u.closing x) := by
  -- Any circuit in use is tracked by some run, if not by one that began with its making.
  let r : Run := ⟨u.circuit.breaker, u.circuit.clock, u.instant, u.permits.map (⟨·, 0⟩), 0, []⟩
  have htracks : Tracks r u := by
    refine ⟨rfl, rfl, rfl, ?_⟩
    rw [List.map_map]
    exact List.map_id _
  obtain ⟨_, _, hkept⟩ := htracks.use hP hstart x
  exact hkept

/-! ## Time -/

section Time

variable {u : Usage} {x : Use}

/-- Time only goes on. -/
theorem instant_le_use (u : Usage) (x : Use) : u.instant ≤ (u.use x).instant := by
  rw [(u.use_eq_closing x).2.1]
  exact closing_induction (Scene.later_invariant u.circuit.callbacks u.instant) (Nat.le_refl _) x

/-- A clock that did not wrap had not wrapped before. -/
theorem Unwrapped.before (h : (u.use x).Unwrapped) : u.Unwrapped := by
  rw [Unwrapped, use_clock] at h
  have hle : (u.instant - u.circuit.clock.anchor) / 1000000 ≤
      ((u.use x).instant - u.circuit.clock.anchor) / 1000000 :=
    Nat.div_le_div_right (Nat.sub_le_sub_right (u.instant_le_use x) _)
  exact Nat.lt_of_le_of_lt hle h

/-- Nor before any of several uses. -/
theorem Unwrapped.before_all {u : Usage} {xs : List Use} (h : (u.uses xs).Unwrapped) :
    u.Unwrapped := by
  induction xs generalizing u with
  | nil => exact h
  | cons x rest ih => exact (ih h).before

/-- Until the clock wraps, its readings never go back. -/
theorem Unwrapped.now_le (h : (u.use x).Unwrapped) : u.now ≤ (u.use x).now := by
  rw [Unwrapped, use_clock] at h
  rw [now, now, Circuit.now, Circuit.now, use_clock]
  exact Clock.reading_mono _ (u.instant_le_use x) h

/-- Also over several uses. -/
theorem Unwrapped.now_le_uses {u : Usage} (xs : List Use) (h : (u.uses xs).Unwrapped) :
    u.now ≤ (u.uses xs).now := by
  induction xs generalizing u with
  | nil => exact Nat.le_refl _
  | cons x rest ih =>
      have hfirst : (u.use x).Unwrapped := before_all h
      exact Nat.le_trans hfirst.now_le (ih h)

end Time

/-- Every use is later than the making of the circuit. -/
theorem Reachable.anchor_le {config : Config} {u : Usage} (h : u.Reachable config) :
    u.circuit.clock.anchor ≤ u.instant := by
  induction h with
  | start name draws callbacks classifier instant => exact Nat.le_refl _
  | @use u x _ ih =>
      rw [use_clock]
      exact Nat.le_trans ih (u.instant_le_use x)
  | under c _ ih => exact ih

/-- Whole milliseconds that a caller waits are read as they pass, until the clock wraps. -/
theorem Reachable.now_wait {config : Config} {u : Usage} (h : u.Reachable config) {ms : Nat}
    (hclock : (u.use (.wait (.ofMillis ms))).Unwrapped) :
    (u.use (.wait (.ofMillis ms))).now = u.now + ms := by
  rw [Unwrapped, use_clock] at hclock
  rw [now, now, Circuit.now, Circuit.now, use_clock]
  exact Clock.reading_add _ h.anchor_le hclock

/-- The breaker does not depend on how callbacks are disposed. -/
theorem Tracks.under {r : Run} {u : Usage} (h : Tracks r u) (c : Callbacks) :
    Tracks r (u.under c) :=
  ⟨h.breaker, h.clock, h.instant, h.permits⟩

/-- Whatever callers do with a new circuit, with any callbacks and any classifier, is a run of its
breaker in which callers hold the same permits. -/
theorem Reachable.tracked {config : Config} {u : Usage} (h : u.Reachable config) :
    ∃ r, Run.Reachable config r ∧ Tracks r u := by
  induction h with
  | start name draws callbacks classifier instant =>
      exact ⟨_, .start name config draws instant,
        tracks_start name config draws callbacks classifier instant⟩
  | use x _ ih =>
      obtain ⟨r, hr, htracks⟩ := ih
      obtain ⟨as, hnext⟩ := htracks.exists_acts x
      exact ⟨r.acts as, hr.acts as, hnext⟩
  | under c _ ih =>
      obtain ⟨r, hr, htracks⟩ := ih
      exact ⟨r, hr, htracks.under c⟩

/-- The configuration of a circuit is the one it was made with. -/
theorem Reachable.config_eq {config : Config} {u : Usage} (h : u.Reachable config) :
    u.circuit.breaker.config = config := by
  obtain ⟨r, hr, htracks⟩ := h.tracked
  rw [← htracks.breaker]
  exact hr.config_eq

/-- A circuit keeps its name. -/
theorem Reachable.name_eq {config : Config} {u : Usage} (h : u.Reachable config) (x : Use) :
    (u.use x).circuit.breaker.name = u.circuit.breaker.name := by
  obtain ⟨r, hr, htracks⟩ := h.tracked
  obtain ⟨as, hnext⟩ := htracks.exists_acts x
  have hname := hr.sound.acts_name as
  rw [hnext.breaker, htracks.breaker] at hname
  exact hname

/-! ## Permits that callers hold -/

/-- Permits that are all stale. -/
def AllStale (u : Usage) : Prop :=
  ∀ p ∈ u.permits, u.circuit.breaker.generation ≠ p.generation

section Permits

variable {config : Config} {u : Usage} (h : u.Reachable config)

include h

/-- A permit is of the present generation or an earlier one. -/
theorem Reachable.generation_le {p : Permit} (hp : p ∈ u.permits) :
    p.generation ≤ u.circuit.breaker.generation := by
  obtain ⟨r, hr, htracks⟩ := h.tracked
  rw [← htracks.permits] at hp
  obtain ⟨t, ht, rfl⟩ := List.mem_map.mp hp
  rw [← htracks.breaker]
  exact hr.sound.generation_le ht

/-- While a circuit is open all permits are stale. -/
theorem Reachable.allStale (hopened : u.state = .opened) : u.AllStale := by
  obtain ⟨r, hr, htracks⟩ := h.tracked
  intro p hp
  rw [← htracks.permits] at hp
  obtain ⟨t, ht, rfl⟩ := List.mem_map.mp hp
  rw [state, ← htracks.breaker] at hopened
  rw [← htracks.breaker]
  exact (hr.sound.generation_ne_iff ht).mpr (hr.sound.stale_of_opened hopened ht)

end Permits

/-- A circuit with a wait of five milliseconds, of which a caller holds a permit. -/
def busy : Usage := (start "db" .brief .halves .none none 0).use .acquire

/-- It is one that callers can make. -/
theorem busy_reachable : busy.Reachable .brief :=
  .use _ (.start "db" .halves .none none 0)

end Usage

end FailFast
