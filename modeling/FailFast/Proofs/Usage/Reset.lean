import FailFast.Proofs.Twins
import FailFast.Proofs.Usage.Calls
import FailFast.Proofs.Usage.Passive

/-!
# A reset is a fresh start

After a reset nothing is left of what happened before: the breaker is the twin of one that was made
just now, and the permits that callers still hold mean nothing to it.  Nobody can tell the two
circuits apart, whatever is done with them, as long as the same is done with both.

A reset of an open or half-open circuit is a transition, and hooks that are told of it may act at
once.  What they do then they would also do to the new breaker.

Main results:

- Theorem `Usage.Twins.use`: twin circuits answer a caller in the same way and stay twins.
- Theorem `Usage.twins_reset`: after a reset a circuit is the twin of a new one.
- Theorem `Usage.reset_starts_afresh`: what can be seen of the two circuits is the same for ever.
-/

namespace FailFast

/-- The same permit of a later generation. -/
def Permit.later (k : Nat) (p : Permit) : Permit := { p with generation := p.generation + k }

/-! ## Stale permits -/

namespace Circuit

variable {c : Circuit} {p : Permit} (hstale : c.breaker.generation ≠ p.generation)

include hstale

theorem complete_stale (instant : Instant) (how : Completion) :
    c.complete instant p how = (c, instant, [.discarded c.breaker.name], ()) := by
  simp only [complete, perform]
  rw [Scene.complete_stale (s := c.scene instant) hstale]
  rfl

theorem timeOut_stale (instant : Instant) (timeout : Duration) :
    c.timeOut instant p timeout =
      (c, instant, [.timedOut c.breaker.name timeout, .discarded c.breaker.name], ()) := by
  simp only [timeOut, perform]
  rw [Scene.complete_stale (s := (c.scene instant).note _) hstale]
  rfl

theorem fault_stale (instant : Instant) (fault : Fault) :
    c.fault instant p fault = (c, instant, [.discarded c.breaker.name], ()) ∨
      c.fault instant p fault = (c, instant, [.ignored c.breaker.name], ()) := by
  simp only [Circuit.fault, perform]
  rcases Scene.fault_stale (s := c.scene instant) hstale c.announcer c.classifier fault
    (p.elapsed instant) with hfault | hfault
  · rw [hfault]
    exact Or.inl rfl
  · rw [hfault]
    exact Or.inr rfl

theorem release_stale (instant : Instant) : c.release instant p = (c, instant, [], ()) := by
  simp only [release, perform]
  rw [Scene.release_stale (s := c.scene instant) hstale]
  rfl

end Circuit

namespace Usage

/-! ## Twin circuits -/

/-- Circuits in use with twin breakers; beside the permits that callers hold of both they may hold
permits of the older one from generations before the younger one was made. -/
structure Twins (k : Nat) (u v : Usage) : Prop where
  breaker : u.circuit.breaker.Twin k v.circuit.breaker
  clock : u.circuit.clock = v.circuit.clock
  callbacks : u.circuit.callbacks = v.circuit.callbacks
  classifier : u.circuit.classifier = v.circuit.classifier
  instant : u.instant = v.instant
  permits : ∃ old, u.permits = v.permits.map (Permit.later k) ++ old ∧
    ∀ p ∈ old, p.generation < k

/-- A circuit in use as a scene leaves it. -/
def taking (u : Usage) (s : Scene) : Usage := { u.put s.breaker with instant := s.instant }

/-- What callers see of a use is the same. -/
structure SeenAlike (k : Nat) (a b : Usage × Journal × Reply) : Prop where
  twins : Twins k a.1 b.1
  transitions : a.2.1.transitions = b.2.1.transitions
  events : a.2.1.events = b.2.1.events
  reply : a.2.2 = b.2.2

section Twins

variable {k : Nat} {u v : Usage} (h : Twins k u v)

include h

theorem Twins.now : u.now = v.now := by
  rw [Usage.now, Usage.now, Circuit.now, Circuit.now, h.clock, h.instant]

theorem Twins.under (c : Callbacks) : Twins k (u.under c) (v.under c) :=
  { h with callbacks := rfl }

/-- Scenes that are twins make twins of twins. -/
theorem Twins.taking {s t : Scene} (hscene : s.Twin k t) : Twins k (u.taking s) (v.taking t) :=
  { h with breaker := hscene.breaker, instant := hscene.instant }

/-- An operation that does the same to twins. -/
theorem Twins.operate {s t : Scene} (hscene : s.Twin k t) (reply : Reply) :
    SeenAlike k (u.taking s, s.journal, reply) (v.taking t, t.journal, reply) where
  twins := h.taking hscene
  transitions := congrArg Journal.transitions hscene.journal
  events := congrArg Journal.events hscene.journal
  reply := rfl

/-- An operation that does the same to twins and uses up a permit of both. -/
theorem Twins.spend {i : Nat} {operation other : Permit → Returned Unit}
    (hnew : ∀ p, ∃ s t : Scene, s.Twin k t ∧
      operation (p.later k) =
        ({ u.circuit with breaker := s.breaker }, s.instant, s.journal, ()) ∧
      other p = ({ v.circuit with breaker := t.breaker }, t.instant, t.journal, ()))
    (hold : ∀ p, p.generation < k → ∃ notes : Journal,
      operation p = (u.circuit, u.instant, notes, ()) ∧
      notes.transitions = [] ∧ notes.events = []) :
    SeenAlike k (u.spend i operation) (v.spend i other) := by
  obtain ⟨old, hheld, hgone⟩ := h.permits
  unfold Usage.spend
  rw [hheld]
  rcases Nat.lt_or_ge i v.permits.length with hi | hi
  · have hmapped : i < (v.permits.map (Permit.later k)).length := by
      rw [List.length_map]
      exact hi
    obtain ⟨s, t, hscene, hoperation, hother⟩ := hnew v.permits[i]
    rw [List.getElem?_append_left hmapped, List.getElem?_map, List.getElem?_eq_getElem hi,
      List.eraseIdx_append_of_lt_length hmapped, List.eraseIdx_map]
    simp only [Option.map_some, hoperation, hother]
    exact
      { h.operate hscene .nothing with
        twins := { h.taking hscene with permits := ⟨old, rfl, hgone⟩ } }
  · have hmapped : (v.permits.map (Permit.later k)).length ≤ i := by
      rw [List.length_map]
      exact hi
    rw [List.getElem?_append_right hmapped, List.getElem?_eq_none hi,
      List.eraseIdx_append_of_length_le hmapped]
    cases hp : old[i - (v.permits.map (Permit.later k)).length]? with
    | none => exact ⟨h, rfl, rfl, rfl⟩
    | some p =>
        obtain ⟨told, hoperation, htransitions, hevents⟩ :=
          hold p (hgone p (List.mem_of_getElem? hp))
        simp only [hoperation]
        refine ⟨{ h with permits := ⟨_, rfl, ?_⟩ }, htransitions, hevents, rfl⟩
        exact fun q hq => hgone q (List.mem_of_mem_eraseIdx hq)

end Twins

/-- Twins answer a caller in the same way and stay twins. -/
theorem Twins.use {k : Nat} {u v : Usage} (h : Twins k u v) (x : Use) :
    SeenAlike k (u.step x) (v.step x) := by
  obtain ⟨⟨b, clock, callbacks, classifier⟩, instant, held⟩ := u
  obtain ⟨⟨d, _, _, _⟩, _, kept⟩ := v
  obtain ⟨hbreaker, rfl, rfl, rfl, rfl, old, hheld, hgone⟩ := id h
  have hannounce := callbacks.announce_twins classifier callbacks.depth k
  have hscene : Scene.Twin k ⟨b, clock, instant, [], []⟩ ⟨d, clock, instant, [], []⟩ :=
    ⟨hbreaker, rfl, rfl, rfl⟩
  cases x with
  | wait d => exact ⟨{ h with instant := rfl }, rfl, rfl, rfl⟩
  | acquire =>
      obtain ⟨hacquired, hverdict⟩ := hscene.acquire hannounce
      simp only [Usage.step, Circuit.acquire, Circuit.perform, Circuit.scene, Circuit.announcer]
      generalize Scene.acquire ⟨b, clock, instant, [], []⟩ _ = first at hacquired hverdict ⊢
      generalize Scene.acquire ⟨d, clock, instant, [], []⟩ _ = second at hacquired hverdict ⊢
      obtain ⟨s, answer⟩ := first
      obtain ⟨t, verdict⟩ := second
      cases hverdict
      cases verdict with
      | error rejection => exact h.operate hacquired (.rejected rejection)
      | ok generation =>
          have hgranted : (⟨generation + k, s.instant⟩ : Permit) =
              Permit.later k ⟨generation, t.instant⟩ :=
            congrArg (Permit.mk (generation + k)) hacquired.instant
          refine
            { h.operate hacquired .granted with
              twins := { h.taking hacquired with permits := ⟨old, ?_, hgone⟩ } }
          exact congrArg₂ List.cons hgranted hheld
  | check =>
      obtain ⟨hchecked, hstate⟩ := hscene.check hannounce
      exact { h.operate hchecked .nothing with reply := congrArg Reply.state hstate }
  | forceOpen => exact h.operate (hscene.forceOpen hannounce) .nothing
  | reset => exact h.operate (hscene.reset hannounce) .nothing
  | complete i how =>
      simp only [Usage.step]
      apply h.spend
      · intro p
        exact ⟨_, _, hscene.complete hannounce p.generation _ _ _, rfl, rfl⟩
      · intro p hp
        exact ⟨_, Circuit.complete_stale (hbreaker.stale hp) instant how, rfl, rfl⟩
  | timeOut i timeout =>
      simp only [Usage.step]
      apply h.spend
      · intro p
        have hnoted := hscene.note (.timedOut b.name timeout)
        refine ⟨_, _, hnoted.complete hannounce p.generation _ _ _, rfl, ?_⟩
        rw [hbreaker.name]
        rfl
      · intro p hp
        exact ⟨_, Circuit.timeOut_stale (hbreaker.stale hp) instant timeout, rfl, rfl⟩
  | fault i fault =>
      simp only [Usage.step]
      apply h.spend
      · intro p
        exact ⟨_, _, hscene.fault hannounce classifier p.generation fault _, rfl, rfl⟩
      · intro p hp
        rcases Circuit.fault_stale (c := ⟨b, clock, callbacks, classifier⟩) (hbreaker.stale hp)
          instant fault with hfault | hfault
        · exact ⟨_, hfault, rfl, rfl⟩
        · exact ⟨_, hfault, rfl, rfl⟩
  | release i =>
      simp only [Usage.step]
      apply h.spend
      · intro p
        exact ⟨_, _, hscene.release p.generation, rfl, rfl⟩
      · intro p hp
        exact ⟨_, Circuit.release_stale (hbreaker.stale hp) instant, rfl, rfl⟩

/-- Twins stay twins whatever is done with both. -/
theorem Twins.turns {k : Nat} {u v : Usage} (h : Twins k u v) (ts : List Turn) :
    Twins k (u.turns ts) (v.turns ts) := by
  induction ts generalizing u v with
  | nil => exact h
  | cons t rest ih => exact ih ((h.under t.callbacks).use t.use).twins

/-! ## What can be seen of a circuit -/

/-- Two circuits show the same, answer a caller who does anything with them in the same way, tell
callbacks the same, and give the same results of calls. -/
structure LooksLike (u v : Usage) : Prop where
  metrics : u.circuit.metrics u.instant = v.circuit.metrics v.instant
  outcomes : u.circuit.outcomes u.instant = v.circuit.outcomes v.instant
  reply : ∀ t : Turn, (u.under t.callbacks).reply t.use = (v.under t.callbacks).reply t.use
  transitions : ∀ t : Turn, ((u.under t.callbacks).notes t.use).transitions =
    ((v.under t.callbacks).notes t.use).transitions
  events : ∀ t : Turn, ((u.under t.callbacks).notes t.use).events =
    ((v.under t.callbacks).notes t.use).events
  calls : ∀ c : Callbacks, (u.under c).CallsAgree (v.under c)

/-- Twins cannot be told apart. -/
theorem Twins.looksLike {k : Nat} {u v : Usage} (h : Twins k u v) : u.LooksLike v where
  metrics := by
    rw [Circuit.metrics, Circuit.metrics, Circuit.now, Circuit.now, h.clock, h.instant]
    exact h.breaker.metrics _
  outcomes := by
    rw [Circuit.outcomes, Circuit.outcomes, Circuit.now, Circuit.now, h.clock, h.instant,
      h.breaker.window]
  reply t := ((h.under t.callbacks).use t.use).reply
  transitions t := ((h.under t.callbacks).use t.use).transitions
  events t := ((h.under t.callbacks).use t.use).events
  calls c := by
    have hafter := (h.under c).use .acquire
    exact callsAgree hafter.reply h.breaker.name hafter.twins.breaker.name
      hafter.twins.breaker.config

/-! ## Resets -/

/-- A circuit made just now, with the same name, configuration, callbacks, classifier and clock. -/
def renewed (u : Usage) (draws : Draws) : Usage where
  circuit :=
    { u.circuit with
      breaker := .fresh u.circuit.breaker.name u.circuit.breaker.config draws u.now }
  instant := u.instant
  permits := []

/-- Such a circuit, after its callbacks were told of the transition that a reset makes. -/
def renewedAndTold (u : Usage) (draws : Draws) : Usage :=
  (u.renewed draws).taking
    (((u.renewed draws).scene.note (.reset u.circuit.breaker.name)).tell u.circuit.announcer
      (u.circuit.breaker.reset u.now).transition)

/-- If nobody is told, or nobody who is told acts, the circuit is simply new. -/
theorem renewedAndTold_eq {u : Usage} (draws : Draws)
    (hquiet : u.state = .closed ∨ u.circuit.callbacks.IsPassive) :
    u.renewedAndTold draws = u.renewed draws := by
  rcases hquiet with hclosed | hpassive
  · have hnone : (u.circuit.breaker.reset u.now).transition = none := if_pos hclosed
    rw [renewedAndTold, hnone]
    rfl
  · rw [renewedAndTold, Circuit.announcer, Callbacks.announce_of_passive hpassive,
      Scene.tell_passively]
    rfl

/-- After a reset a circuit is the twin of a new one whose callbacks were told of the reset. -/
theorem twins_reset {config : Config} {u : Usage} (hjitter : config.isJittered = false)
    (hu : u.Reachable config) (draws : Draws) :
    Twins (u.circuit.breaker.generation + 1) (u.use .reset) (u.renewedAndTold draws) := by
  obtain ⟨r, hr, htracks⟩ := hu.tracked
  have hconfig := hu.config_eq
  have hwindow := hr.window_clear
  rw [htracks.breaker] at hwindow
  have hrenewed : (u.circuit.breaker.reset u.now).breaker.Twin (u.circuit.breaker.generation + 1)
      (u.renewed draws).circuit.breaker := by
    refine ⟨rfl, rfl, ?_, rfl, (Nat.zero_add _).symm, rfl, rfl, ?_⟩
    · rw [← hconfig] at hwindow
      exact hwindow
    · rw [← hconfig] at hjitter
      exact hjitter
  have hscene : Scene.Twin (u.circuit.breaker.generation + 1)
      ((u.scene.note (.reset u.circuit.breaker.name)).leave
        (u.circuit.breaker.reset u.now).breaker true)
      ((u.renewed draws).scene.note (.reset u.circuit.breaker.name)) :=
    ⟨hrenewed, rfl, rfl, rfl⟩
  have htold := hscene.tell
    (u.circuit.callbacks.announce_twins u.circuit.classifier u.circuit.callbacks.depth _)
    (m := (u.circuit.breaker.reset u.now).transition) rfl
  refine ⟨htold.breaker, rfl, rfl, rfl, htold.instant, u.permits, rfl, ?_⟩
  exact fun p hp => Nat.lt_succ_of_le (hu.generation_le hp)

/-- After a reset nothing of a circuit can be told from a circuit made just now whose callbacks were
told of the reset, whatever is done with both, and whatever becomes of the permits granted before.
If the circuit was closed, or if its callbacks do not act, it is a new circuit and nothing else. -/
theorem reset_starts_afresh {config : Config} {u : Usage} (hjitter : config.isJittered = false)
    (hu : u.Reachable config) (draws : Draws) :
    (∀ ts, ((u.use .reset).turns ts).LooksLike ((u.renewedAndTold draws).turns ts)) ∧
    (u.state = .closed ∨ u.circuit.callbacks.IsPassive →
      ∀ ts, ((u.use .reset).turns ts).LooksLike ((u.renewed draws).turns ts)) := by
  have htwins := twins_reset hjitter hu draws
  refine ⟨fun ts => (htwins.turns ts).looksLike, ?_⟩
  intro hquiet ts
  rw [← renewedAndTold_eq draws hquiet]
  exact (htwins.turns ts).looksLike

/-- A circuit in a trial, of which a caller holds a permit from before it opened. -/
def tried : Usage :=
  (start "db" .brief .halves .none none 0).uses
    [.acquire, .acquire, .complete 0 .failed, .wait (.ofMillis 5), .acquire]

/-- A circuit that is reset in its trial looks like a new one for ever, though callers still hold a
permit of the trial and one from before. -/
theorem reset_of_trial :
    tried.state = .halfOpen ∧ tried.permits.length = 2 ∧
      ∀ ts, ((tried.use .reset).turns ts).LooksLike ((tried.renewed .halves).turns ts) := by
  have htried : tried.Reachable .brief := Reachable.uses (.start "db" .halves .none none 0) _
  have hpassive : tried.circuit.callbacks.IsPassive := by
    rw [tried, uses_callbacks]
    exact Or.inl rfl
  exact ⟨by decide +kernel, by decide +kernel,
    (reset_starts_afresh (by decide) htried .halves).2 (Or.inr hpassive)⟩

/-- A circuit that was forced open, with a hook that forces it open whenever it closes. -/
def insistent : Usage :=
  (start "x" .standard .halves
    { Callbacks.none with onClose := some (.always .forceOpen), depth := 1 } none 0).use .forceOpen

/-- Its reset does not leave it like a new circuit, which is closed: the hook is told of the reset
and has opened it again by then. -/
theorem reset_not_afresh :
    ¬ ∀ (config : Config) (u : Usage) (draws : Draws), config.Valid → config.isJittered = false →
      u.Reachable config →
      ∀ ts, ((u.use .reset).turns ts).LooksLike ((u.renewed draws).turns ts) := by
  intro hafresh
  have hinsistent : insistent.Reachable .standard := .use _ (.start "x" .halves _ none 0)
  have hlooks := hafresh .standard insistent .halves Config.standard_valid (by decide) hinsistent []
  have hstate : (insistent.use .reset).circuit.breaker.state =
      (insistent.renewed .halves).circuit.breaker.state := congrArg Metrics.state hlooks.metrics
  have hopened : (insistent.use .reset).circuit.breaker.state = .opened := by
    decide +kernel
  rw [hopened] at hstate
  cases hstate

end Usage

end FailFast
