import FailFast.Proofs.Chronicle
import FailFast.Proofs.Usage.Passive

/-!
# What callbacks see of a circuit in use

Hooks may act on the circuit while it is announced to them that its state changed, and they may take
their time, so transitions are announced in the middle of operations and of other announcements, at
later and later readings.  Nevertheless all listeners are told of the same transitions: of every
change of state, in the order of these changes and once.  These transitions are a path from the
closed state to the state in which the circuit is.

The changes of state are read off the breaker itself: off the states in which operations and hooks
leave it one after the other, whatever is announced of them.  What a hook does may depend on all
that happened before, so each use of a circuit finds callbacks that are disposed to act in any way.

Main results:

- Theorem `Watch.isTrue_turn`: the chronicle of a circuit in use goes on to be true when the circuit
  is used once more.
- Theorem `Watch.faithful_turns`: the events of a circuit in use are its changes of state.
-/

namespace FailFast

/-! ## Watches -/

/-- A circuit in use, with the chronicle of it. -/
structure Watch where
  usage : Usage
  chronicle : Chronicle

namespace Watch

/-- A new circuit. -/
def start (name : String) (config : Config) (draws : Draws) (classifier : Option Classifier)
    (instant : Instant) : Watch where
  usage := .start name config draws .none classifier instant
  chronicle := .start instant

/-- Use the circuit once. -/
def turn (w : Watch) (t : Turn) : Watch where
  usage := (w.usage.under t.callbacks).use t.use
  chronicle := w.chronicle.upTo ((w.usage.under t.callbacks).closing t.use)

/-- Use the circuit several times. -/
def turns (w : Watch) (ts : List Turn) : Watch := ts.foldl turn w

/-- The breaker. -/
def breaker (w : Watch) : Breaker := w.usage.circuit.breaker

/-- The clock. -/
def clock (w : Watch) : Clock := w.usage.circuit.clock

/-- All that was noted. -/
def journal (w : Watch) : Journal := w.chronicle.journal

/-- The transitions that were announced. -/
def events (w : Watch) : List Transition := w.chronicle.events

/-- How the breaker was left each time that an operation or a hook let go of it. -/
def trail (w : Watch) : List Glimpse := w.chronicle.trail

/-- The changes of state of the breaker. -/
def changes (w : Watch) : List Transition :=
  Glimpse.changes w.breaker.name w.clock .closed w.trail

/-- The reading at the last reset, or when the circuit was made. -/
def clearedAt (w : Watch) : Nat := w.clock.reading (Glimpse.cleared w.chronicle.made w.trail)

/-- The reading at the last event. -/
def movedAt (w : Watch) : Nat := Glimpse.lastReading w.events

/-- What is noted is what the turns noted. -/
theorem journal_turn (w : Watch) (t : Turn) :
    (w.turn t).journal = w.journal ++ (w.usage.under t.callbacks).notes t.use :=
  congrArg (w.journal ++ ·) ((w.usage.under t.callbacks).use_eq_closing t.use).2.2.symm

/-! ## True chronicles -/

/-- The chronicle of a circuit in use is true. -/
def IsTrue (w : Watch) (listeners : Nat) : Prop :=
  w.chronicle.IsTrue listeners w.clock w.breaker w.usage.instant

/-- It goes on to be true when the circuit is used once more. -/
theorem isTrue_turn {w : Watch} {t : Turn} (h : w.IsTrue t.callbacks.listeners) :
    (w.turn t).IsTrue t.callbacks.listeners := by
  obtain ⟨hbreaker, hinstant, _⟩ := (w.usage.under t.callbacks).use_eq_closing t.use
  have hstart : w.chronicle.Reaches t.callbacks.listeners (w.usage.under t.callbacks).scene := by
    have hsame : w.chronicle.upTo (w.usage.under t.callbacks).scene = w.chronicle := by
      simp [Chronicle.upTo, Usage.scene, Circuit.scene]
    rw [Chronicle.Reaches, hsame]
    exact h
  have hclosing := Usage.closing_induction (w.chronicle.reaches_invariant t.callbacks) hstart t.use
  have hclock := Usage.closing_induction (u := w.usage.under t.callbacks)
    (Scene.clock_invariant t.callbacks w.clock) rfl t.use
  rw [Chronicle.Reaches, hclock, ← hbreaker, ← hinstant] at hclosing
  rw [IsTrue, clock, turn, Usage.use_clock]
  exact hclosing

/-- Whatever is done with a new circuit, its chronicle is true. -/
theorem isTrue_turns (name : String) (config : Config) (draws : Draws)
    (classifier : Option Classifier) (instant : Instant) {listeners : Nat} (ts : List Turn)
    (hlisteners : ∀ t ∈ ts, t.callbacks.listeners = listeners) :
    ((start name config draws classifier instant).turns ts).IsTrue listeners := by
  have hturns : ∀ (ts : List Turn) (w : Watch), (∀ t ∈ ts, t.callbacks.listeners = listeners) →
      w.IsTrue listeners → (w.turns ts).IsTrue listeners := by
    intro ts
    induction ts with
    | nil => exact fun w _ hw => hw
    | cons t rest ih =>
        intro w hall hw
        obtain ⟨hfirst, hrest⟩ := List.forall_mem_cons.mp hall
        subst hfirst
        exact ih (w.turn t) hrest (isTrue_turn hw)
  exact hturns ts _ hlisteners
    (Chronicle.isTrue_start name config draws listeners instant)

/-! ## Faithful events -/

/-- The events of a circuit in use are its changes of state, and everyone who is told of them is
told of them truly. -/
structure Faithful (listeners : Nat) (w : Watch) : Prop where
  /-- The events are the changes of state of the breaker, each once, in their order and with the
  reading at which it was made. -/
  changes : w.events = w.changes
  /-- The breaker is as it was left last. -/
  left : w.breaker.state = Glimpse.last .closed w.trail
  /-- It was left at later and later times, none of which is still to come. -/
  inTime : (w.chronicle.instants ++ [w.usage.instant]).Pairwise (· ≤ ·)
  /-- All listeners are told of exactly these events. -/
  heard : ∀ i < listeners, w.journal.heardBy i = w.events
  /-- Whoever is told of an event finds the circuit in the state that was entered. -/
  seen : ∀ n ∈ w.journal, n.SeesTarget
  /-- The events lead from the closed state to that of the circuit, each from where the one before
  it led to another state, and never from closed to half-open. -/
  path : Transition.Path .closed w.events w.breaker.state
  /-- The circuit is in the state to which the last event led, or else closed. -/
  state : w.breaker.state = (w.events.map Transition.target).getLastD .closed
  /-- Until the clock wraps the readings of events never go back. -/
  ordered : w.usage.Unwrapped → w.events.Pairwise fun t later => t.reading ≤ later.reading
  /-- The time in the state counts from the making of the circuit, the last event or the last reset,
  whichever was the latest. -/
  timeInState : w.usage.Unwrapped → (w.usage.circuit.metrics w.usage.instant).timeInState =
    .ofMillis (w.usage.now - max w.clearedAt w.movedAt)
  /-- By itself, that is while no callback acts, a use makes at most one transition, which is what
  it changes in the state. -/
  alone : ∀ c : Callbacks, c.IsPassive → ∀ x, (w.usage.under c).MovesOnce x

/-- A circuit whose chronicle is true is told of faithfully. -/
theorem IsTrue.faithful {listeners : Nat} {w : Watch} (h : w.IsTrue listeners) :
    w.Faithful listeners where
  changes := h.events
  left := h.left
  inTime := h.ordered
  heard := h.told.heard
  seen := h.told.seen
  path := h.path
  state := h.path.last
  ordered := h.readings
  timeInState hclock := by
    have hsince : w.usage.circuit.breaker.changedAt = max w.clearedAt w.movedAt :=
      h.since_eq hclock
    rw [Circuit.metrics, Breaker.metrics, hsince]
    rfl
  alone c hpassive x := Usage.movesOnce hpassive x

/-- Whatever callers do with a new circuit and whatever hooks do in between, to any depth and for
however long, the events of the circuit are its changes of state. -/
theorem faithful_turns (name : String) (config : Config) (draws : Draws)
    (classifier : Option Classifier) (instant : Instant) {listeners : Nat} (ts : List Turn)
    (hlisteners : ∀ t ∈ ts, t.callbacks.listeners = listeners) :
    ((start name config draws classifier instant).turns ts).Faithful listeners :=
  (isTrue_turns name config draws classifier instant ts hlisteners).faithful

/-- A circuit whose hooks are at odds: one takes two milliseconds and resets it whenever it opens,
and another takes three and forces it open whenever it closes. -/
def atOdds : Callbacks where
  listeners := 2
  onOpen := some ⟨fun _ => [.wait (.ofMillis 2), .reset]⟩
  onClose := some ⟨fun _ => [.wait (.ofMillis 3), .forceOpen]⟩
  onHalfOpen := none
  publishes := false
  depth := 3

/-- Hooks at odds go on until the last level of them only watches.  Both listeners are told of all
of it, as it happened in the course of one call. -/
theorem faithful_at_odds :
    let w := (start "service" .brief .halves none 0).turns [⟨atOdds, .forceOpen⟩]
    w.events =
      [⟨"service", .closed, .opened, 0⟩, ⟨"service", .opened, .closed, 2⟩,
        ⟨"service", .closed, .opened, 5⟩, ⟨"service", .opened, .closed, 7⟩] ∧
      w.changes = w.events ∧ w.journal.heardBy 1 = w.events ∧ w.breaker.state = .closed := by
  have hlisteners : ∀ t ∈ [(⟨atOdds, .forceOpen⟩ : Turn)], t.callbacks.listeners = 2 := by
    decide
  have hfaithful := faithful_turns "service" .brief .halves none 0 _ hlisteners
  have hevents : ((start "service" .brief .halves none 0).turns [⟨atOdds, .forceOpen⟩]).events =
      [⟨"service", .closed, .opened, 0⟩, ⟨"service", .opened, .closed, 2⟩,
        ⟨"service", .closed, .opened, 5⟩, ⟨"service", .opened, .closed, 7⟩] := by
    decide +kernel
  refine ⟨hevents, hfaithful.changes.symm, hfaithful.heard 1 (by decide), ?_⟩
  exact hfaithful.state.trans (by rw [hevents]; rfl)

end Watch

end FailFast
