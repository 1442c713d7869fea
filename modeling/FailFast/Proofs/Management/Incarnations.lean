import Mathlib.Data.List.Induction
import FailFast.Proofs.Management.Sessions

/-!
# One circuit for each service

A service has a circuit from its first use on until it is removed or configured, and then from its
next use on.  All who use the service between two such times use the same circuit, which has the
configuration that the service was given last.  The next circuit is new, and nothing that is done
with an earlier one matters to it, to any other circuit or to what the registry answers.

Main results:

- Theorem `Management.find?_prepare`: which circuit is registered for a service after a deed.
- Theorem `Management.configFor_deeds`: the configuration of a service is the one it was given last.
- Theorem `Management.Apart.deeds`: what was done with a circuit that is not registered any more
  never matters.
- Theorem `Session.run_looks`: steps that only look never make a circuit.
- Theorem `Management.one_incarnation`: each service has one circuit at a time, on its present
  configuration.
-/

namespace FailFast

/-! ## What was given and forgotten -/

/-- The configuration that a service was given last, or the standard one. -/
def Config.latest (standard : Config) (given : List (String × Config)) (service : String) : Config :=
  (((given.filter (·.1 = service)).getLast?).map Prod.snd).getD standard

namespace Deed

/-- The configuration that a deed gives to a service. -/
def given? : Deed → Option (String × Config)
  | configure service config => some (service, config)
  | _ => none

/-- What was done since the circuit of a service was forgotten, or from the beginning. -/
def sinceForgotten (service : String) (ds : List Deed) : List Deed :=
  (ds.reverse.takeWhile (!·.forgets service)).reverse

/-- Whether someone got hold of the circuit of a service since it was forgotten. -/
def known (service : String) (ds : List Deed) : Bool :=
  (sinceForgotten service ds).any (·.obtains service)

/-- One more deed forgets the service, or gets hold of its circuit, or does neither. -/
theorem known_concat (service : String) (ds : List Deed) (d : Deed) :
    known service (ds ++ [d]) =
      if d.forgets service then false else known service ds || d.obtains service := by
  simp only [known, sinceForgotten, List.reverse_append, List.reverse_singleton,
    List.singleton_append, List.takeWhile_cons]
  cases d.forgets service <;> simp

end Deed

/-- The latest entry comes first when the list is turned round. -/
theorem lookup_reverse (given : List (String × Config)) (service : String) :
    given.reverse.lookup service = ((given.filter (·.1 = service)).getLast?).map Prod.snd := by
  induction given using List.reverseRecOn with
  | nil => rfl
  | append_singleton earlier entry ih =>
      rw [List.reverse_append, List.reverse_singleton, List.singleton_append, List.lookup_cons,
        List.filter_append]
      by_cases hentry : entry.1 = service
      · simp [hentry]
      · rw [beq_false_of_ne (Ne.symm hentry), ih]
        simp [hentry]

namespace Management

variable {m n : Management} {service : String}

/-! ## What is registered -/

/-- A deed changes nothing of a registry but the overrides and what is registered. -/
theorem registry_prepare (m : Management) (d : Deed) :
    (m.prepare d).registry =
      { m.registry with
        overrides := d.given?.toList ++ m.registry.overrides
        registered := (m.prepare d).registry.registered } := by
  have hobtained : ∀ service, (m.obtained service).registry =
      { m.registry with registered := (m.obtained service).registry.registered } := by
    intro service
    cases hfind : m.registry.find? service with
    | some i => rw [(obtained_of_find hfind).1]
    | none => rw [(obtained_of_none hfind).1]
  cases d with
  | obtain service => exact hobtained service
  | acquire service => exact hobtained service
  | forceOpen service => exact hobtained service
  | draw service k draws =>
      simp only [prepare]
      split <;> rfl
  | _ => rfl

/-- The configuration of a service is the one that it was given last. -/
theorem configFor_deeds (standard : Config) (overrides : List (String × Config))
    (classifier : Option Classifier) (listeners : Nat) (channel : Channel) (ds : List Deed)
    (service : String) :
    ((start standard overrides classifier listeners channel).deeds ds).registry.configFor service =
      standard.latest (overrides ++ ds.filterMap Deed.given?) service := by
  have hregistry :
      ((start standard overrides classifier listeners channel).deeds ds).registry.standard =
          standard ∧
        ((start standard overrides classifier listeners channel).deeds ds).registry.overrides =
          (overrides ++ ds.filterMap Deed.given?).reverse := by
    induction ds using List.reverseRecOn with
    | nil =>
        rw [List.filterMap_nil, List.append_nil]
        exact ⟨rfl, rfl⟩
    | append_singleton earlier d ih =>
        rw [deeds, List.foldl_append, List.foldl_cons, List.foldl_nil]
        unfold deeds at ih
        rw [deed_registry, registry_prepare]
        refine ⟨ih.1, ?_⟩
        rw [ih.2, List.filterMap_append, ← List.append_assoc, List.reverse_append]
        cases hgiven : d.given? <;> simp [hgiven]
  rw [Registry.configFor, hregistry.1, hregistry.2, lookup_reverse]
  rfl

/-- After a deed that uses a service its circuit is registered, after one that forgets it none is,
and other deeds leave what is registered for it. -/
theorem find?_prepare (m : Management) (d : Deed) (service : String) :
    (m.prepare d).registry.find? service =
      if d.obtains service then some (m.target service)
      else if d.forgets service then none
      else m.registry.find? service := by
  have hobtained : ∀ other, (m.obtained other).registry.find? service =
      if other = service then some (m.target service) else m.registry.find? service := by
    intro other
    split
    · rename_i hother
      rw [hother]
      exact m.find?_obtained service
    · rename_i hother
      exact find?_obtained_other (Ne.symm hother)
  have hforgotten : ∀ other : String,
      (if service = other then none else m.registry.find? service) =
        if other = service then none else m.registry.find? service := by
    intro other
    by_cases hother : other = service
    · rw [if_pos hother, if_pos hother.symm]
    · rw [if_neg hother, if_neg (Ne.symm hother)]
  cases d with
  | obtain other => simpa [prepare, Deed.obtains, Deed.forgets] using hobtained other
  | acquire other => simpa [prepare, Deed.obtains, Deed.forgets] using hobtained other
  | forceOpen other => simpa [prepare, Deed.obtains, Deed.forgets] using hobtained other
  | remove other =>
      simpa [prepare, Deed.obtains, Deed.forgets] using
        (m.find?_removed other service).trans (hforgotten other)
  | configure other config =>
      simpa [prepare, Deed.obtains, Deed.forgets] using
        (m.find?_configured other config service).trans (hforgotten other)
  | draw other k draws =>
      simp only [prepare]
      split <;> rfl
  | _ => rfl

/-- A service has a circuit when someone got hold of it since it was forgotten. -/
theorem find?_deeds (standard : Config) (overrides : List (String × Config))
    (classifier : Option Classifier) (listeners : Nat) (channel : Channel) (ds : List Deed)
    (service : String) :
    (((start standard overrides classifier listeners channel).deeds ds).registry.find?
      service).isSome = Deed.known service ds := by
  induction ds using List.reverseRecOn with
  | nil => rfl
  | append_singleton earlier d ih =>
      unfold deeds at ih ⊢
      rw [List.foldl_append, List.foldl_cons, List.foldl_nil, deed_registry, find?_prepare,
        Deed.known_concat]
      have hone : d.obtains service = true → d.forgets service = false := by
        cases d <;> simp [Deed.obtains, Deed.forgets]
      cases hobtains : d.obtains service with
      | true => simp [hone hobtains]
      | false => cases d.forgets service <;> simp [ih]

/-- Until it is forgotten the circuit of a service stays registered. -/
theorem find?_deeds_of_find {i : Nat} (hfind : m.registry.find? service = some i) {ds : List Deed}
    (hds : ∀ d ∈ ds, d.forgets service = false) : (m.deeds ds).registry.find? service = some i := by
  induction ds generalizing m with
  | nil => exact hfind
  | cons d rest ih =>
      obtain ⟨hd, hrest⟩ := List.forall_mem_cons.mp hds
      refine ih ?_ hrest
      rw [deed_registry, find?_prepare, hd, (obtained_of_find hfind).2]
      split
      · rfl
      · exact hfind

/-! ## Earlier circuits -/

/-- Two registries in use that differ in one circuit, which is registered in neither, and in what was
noted and published. -/
structure Apart (i : Nat) (m n : Management) : Prop where
  registry : m.registry = n.registry
  instant : m.fleet.instant = n.fleet.instant
  size : m.fleet.circuits.length = n.fleet.circuits.length
  name : m.name? i = n.name? i
  usage : ∀ j, j ≠ i → m.usage? j = n.usage? j
  made : i < m.fleet.circuits.length
  unregistered : ∀ service, m.registry.find? service ≠ some i

/-- Two registries in use that give the same answers about every service, and to everyone who wants
to call one. -/
structure AnswersAlike (m n : Management) : Prop where
  registry : m.registry = n.registry
  state : ∀ service, m.registry.state m.fleet service = n.registry.state n.fleet service
  metrics : ∀ service, m.registry.metrics m.fleet service = n.registry.metrics n.fleet service
  acquire : ∀ service, m.replies (.acquire service) = n.replies (.acquire service)

namespace Apart

variable {i : Nat} (h : m.Apart i n)

include h

/-- The same circuits were made for each service. -/
theorem numbers_eq (service : String) : m.numbers service = n.numbers service := by
  apply numbers_congr h.size
  intro j
  by_cases hj : j = i
  · rw [hj]
    exact h.name
  · rw [name?_eq, name?_eq, h.usage j hj]

/-- The circuit that a service has or gets is another one, and it is the same in both. -/
theorem target_ne (service : String) :
    m.target service ≠ i ∧ m.target service = n.target service := by
  cases hfind : m.registry.find? service with
  | some j =>
      have hfound : n.registry.find? service = some j := h.registry ▸ hfind
      rw [(obtained_of_find hfind).2, (obtained_of_find hfound).2]
      refine ⟨?_, rfl⟩
      intro hj
      rw [hj] at hfind
      exact h.unregistered service hfind
  | none =>
      have hunknown : n.registry.find? service = none := h.registry ▸ hfind
      rw [(obtained_of_none hfind).2, (obtained_of_none hunknown).2]
      exact ⟨Nat.ne_of_gt h.made, h.size⟩

/-- Using a circuit keeps them so, and another circuit gives the same answer in both. -/
theorem useOn (hm : m.Orderly) (hn : n.Orderly) (j : Nat) (x : Use) :
    (m.useOn j x).1.Apart i (n.useOn j x).1 ∧
      (j ≠ i → (m.useOn j x).2 = (n.useOn j x).2) := by
  have hrest : (∀ k, k ≠ i → (m.useOn j x).1.usage? k = (n.useOn j x).1.usage? k) →
      (m.useOn j x).1.Apart i (n.useOn j x).1 := by
    intro husage
    refine
      { registry := ?_
        instant := ?_
        size := ?_
        name := ?_
        usage := husage
        made := ?_
        unregistered := ?_ }
    · rw [useOn_registry, useOn_registry, h.registry]
    · rw [useOn_instant, useOn_instant, h.instant]
    · rw [useOn_size, useOn_size, h.size]
    · rw [hm.name?_useOn, hn.name?_useOn, h.name]
    · rw [useOn_size]
      exact h.made
    · rw [useOn_registry]
      exact h.unregistered
  by_cases hji : j = i
  · subst hji
    refine ⟨hrest ?_, fun hne => absurd rfl hne⟩
    intro k hk
    rw [usage?_useOn_other hk.symm, usage?_useOn_other hk.symm]
    exact h.usage k hk
  · have hsame := h.usage j hji
    cases hu : m.usage? j with
    | none =>
        rw [hu] at hsame
        rw [useOn_none hu, useOn_none hsame.symm]
        exact ⟨h, fun _ => rfl⟩
    | some u =>
        rw [hu] at hsame
        refine ⟨hrest ?_, fun _ => ?_⟩
        · intro k hk
          by_cases hjk : j = k
          · subst hjk
            rw [usage?_useOn hu, usage?_useOn hsame.symm]
          · rw [usage?_useOn_other hjk, usage?_useOn_other hjk]
            exact h.usage k hk
        · rw [useOn_some hu, useOn_some hsame.symm]

/-- So it is when circuits are used one after the other. -/
theorem useAll (hm : m.Orderly) (hn : n.Orderly) (touches : List (Nat × Use)) :
    (m.useAll touches).1.Apart i (n.useAll touches).1 ∧
      ((∀ touch ∈ touches, touch.1 ≠ i) → (m.useAll touches).2 = (n.useAll touches).2) := by
  induction touches generalizing m n with
  | nil => exact ⟨h, fun _ => rfl⟩
  | cons touch rest ih =>
      obtain ⟨hnext, hreply⟩ := h.useOn hm hn touch.1 touch.2
      obtain ⟨hlast, hreplies⟩ := ih hnext (hm.useOn _ _) (hn.useOn _ _)
      refine ⟨hlast, ?_⟩
      intro hne
      obtain ⟨hfirst, hothers⟩ := List.forall_mem_cons.mp hne
      exact congrArg₂ List.cons (hreply hfirst) (hreplies hothers)

/-- The first part of a deed keeps them apart. -/
theorem prepare (hm : m.Orderly) (hn : n.Orderly) (d : Deed) :
    (m.prepare d).Apart i (n.prepare d) := by
  obtain ⟨hregistry, hinstant, hsize, husage⟩ :
      (m.prepare d).registry = (n.prepare d).registry ∧
      (m.prepare d).fleet.instant = (n.prepare d).fleet.instant ∧
      (m.prepare d).fleet.circuits.length = (n.prepare d).fleet.circuits.length ∧
      ∀ j, j ≠ i → (m.prepare d).usage? j = (n.prepare d).usage? j := by
    have hobtained : ∀ service,
        (m.obtained service).registry = (n.obtained service).registry ∧
        (m.obtained service).fleet.instant = (n.obtained service).fleet.instant ∧
        (m.obtained service).fleet.circuits.length = (n.obtained service).fleet.circuits.length ∧
        ∀ j, j ≠ i → (m.obtained service).usage? j = (n.obtained service).usage? j := by
      intro service
      cases hfind : m.registry.find? service with
      | some j =>
          have hfound : n.registry.find? service = some j := h.registry ▸ hfind
          rw [(obtained_of_find hfind).1, (obtained_of_find hfound).1]
          exact ⟨h.registry, h.instant, h.size, h.usage⟩
      | none =>
          have hunknown : n.registry.find? service = none := h.registry ▸ hfind
          have husage : ∀ j, j ≠ i →
              (m.obtained service).usage? j = (n.obtained service).usage? j := by
            intro j hj
            rw [usage?_obtained_of_none hfind (hm.unmade _ (Nat.le_refl _)),
              usage?_obtained_of_none hunknown (hn.unmade _ (Nat.le_refl _)), h.size, h.registry,
              h.instant, h.usage j hj]
          refine ⟨?_, ?_, ?_, husage⟩
          all_goals rw [(obtained_of_none hfind).1, (obtained_of_none hunknown).1]
          · simp only [h.registry, h.size]
          · exact h.instant
          · simp only [Fleet.add, Fleet.note, List.length_append, h.size, List.length_singleton]
    cases d with
    | wait d =>
        refine ⟨h.registry, congrArg (· + d.nanos) h.instant, h.size, ?_⟩
        intro j hj
        simp only [Management.prepare, usage?_waited, h.usage j hj]
    | obtain service => exact hobtained service
    | acquire service => exact hobtained service
    | forceOpen service => exact hobtained service
    | remove service =>
        refine ⟨?_, h.instant, h.size, h.usage⟩
        simp only [Management.prepare, removed, h.registry]
    | configure service config =>
        obtain ⟨_, hfleet⟩ := m.configured_fleet service config
        obtain ⟨_, hother⟩ := n.configured_fleet service config
        refine ⟨?_, ?_, ?_, ?_⟩
        · simp only [Management.prepare, configured, Registry.configure, h.registry]
        · simp only [Management.prepare, hfleet, hother, h.instant]
        · simp only [Management.prepare, hfleet, hother, h.size]
        · intro j hj
          simp only [Management.prepare, usage?_configured, h.usage j hj]
    | draw service k draws =>
        simp only [Management.prepare, h.numbers_eq service]
        cases (n.numbers service)[k]? with
        | none => exact ⟨h.registry, h.instant, h.size, h.usage⟩
        | some number =>
            refine ⟨h.registry, h.instant, ?_, ?_⟩
            · simp only [drawn, List.length_modify, h.size]
            · intro j hj
              rw [usage?_drawn, usage?_drawn, h.usage j hj]
    | reset service => exact ⟨h.registry, h.instant, h.size, h.usage⟩
    | resetAll tour => exact ⟨h.registry, h.instant, h.size, h.usage⟩
    | checkAll tour => exact ⟨h.registry, h.instant, h.size, h.usage⟩
    | use service k x => exact ⟨h.registry, h.instant, h.size, h.usage⟩
  obtain ⟨hmade, hname⟩ := name?_prepare h.made d
  obtain ⟨_, hsame⟩ := name?_prepare (h.size ▸ h.made) d
  refine ⟨hregistry, hinstant, hsize, hname.trans (h.name.trans hsame.symm), husage, hmade, ?_⟩
  intro service
  rw [find?_prepare]
  split
  · exact fun hsome => (h.target_ne service).1 (Option.some.inj hsome)
  · split
    · exact (Option.some_ne_none i).symm
    · exact h.unregistered service

/-- The second part uses the same circuits in the same way. -/
theorem touches_eq (hm : m.Orderly) (d : Deed) : m.touches d = n.touches d := by
  have hprobes : ∀ entry ∈ m.registry.registered,
      m.probesItself entry.2 = n.probesItself entry.2 := by
    intro entry hentry
    have hne : entry.2 ≠ i := by
      intro heq
      apply h.unregistered entry.1
      rw [← heq]
      exact hm.find?_eq_some.mpr hentry
    rw [probesItself, probesItself, circuit_eq, circuit_eq, h.usage _ hne]
  cases d with
  | checkAll tour =>
      simp only [touches, ← h.registry]
      congr 1
      apply List.filter_congr
      intro entry hentry
      exact hprobes entry ((tour.perm _).mem_iff.mp hentry)
  | use service k x => simp only [touches, h.numbers_eq service]
  | _ => simp only [touches, h.registry]

/-- A whole deed keeps them apart. -/
theorem deed (hm : m.Orderly) (hn : n.Orderly) (d : Deed) : (m.deed d).Apart i (n.deed d) := by
  have hprepared := h.prepare hm hn d
  rw [Management.deed, Management.deed, Management.step, Management.step,
    ← hprepared.touches_eq (hm.prepare d)]
  exact (hprepared.useAll (hm.prepare d) (hn.prepare d) _).1

/-- So does whatever is done. -/
theorem deeds (hm : m.Orderly) (hn : n.Orderly) (ds : List Deed) :
    (m.deeds ds).Apart i (n.deeds ds) := by
  induction ds generalizing m n with
  | nil => exact h
  | cons d rest ih => exact ih (h.deed hm hn d) (hm.deed d) (hn.deed d)

/-- Callers who go through the registry cannot tell them from each other. -/
theorem answers (hm : m.Orderly) (hn : n.Orderly) : m.AnswersAlike n := by
  have hfound : ∀ service j, m.registry.find? service = some j →
      m.fleet.circuits[j]? = n.fleet.circuits[j]? := by
    intro service j hfind
    have hne : j ≠ i := by
      rintro rfl
      exact h.unregistered service hfind
    rw [circuit_eq, circuit_eq, h.usage j hne]
  refine ⟨h.registry, ?_, ?_, ?_⟩
  · intro service
    simp only [Registry.state, ← h.registry]
    cases hfind : m.registry.find? service with
    | none => rfl
    | some j => simp only [Option.bind_some, hfound service j hfind]
  · intro service
    simp only [Registry.metrics, ← h.registry]
    cases hfind : m.registry.find? service with
    | none => rfl
    | some j => simp only [Option.bind_some, Fleet.metrics?, hfound service j hfind, h.instant]
  · intro service
    have hprepared := h.prepare hm hn (.acquire service)
    rw [replies, replies, step, step, ← hprepared.touches_eq (hm.prepare _)]
    apply (hprepared.useAll (hm.prepare _) (hn.prepare _) _).2
    intro touch htouch
    have hnumber : touch.1 = m.target service := by
      simp only [touches, Management.prepare, find?_obtained, Option.toList_some, List.map_cons,
        List.map_nil, List.mem_singleton] at htouch
      rw [htouch]
    rw [hnumber]
    exact (h.target_ne service).1

end Apart

/-- Using a circuit that is not registered leaves everything else as it is. -/
theorem Orderly.apart_use (hm : m.Orderly) {k i : Nat} (hi : (m.numbers service)[k]? = some i)
    (hforgotten : m.registry.find? service ≠ some i) (x : Use) :
    m.Apart i (m.deed (.use service k x)) := by
  have hname : m.name? i = some service := mem_numbers.mp (List.mem_of_getElem? hi)
  have hused : m.deed (.use service k x) = (m.useOn i x).1 := by
    simp only [Management.deed, step, Management.prepare, touches, hi, Option.toList_some,
      List.map_cons, List.map_nil, useAll]
  rw [hused]
  refine
    { registry := (m.useOn_registry i x).symm
      instant := (m.useOn_instant i x).symm
      size := (m.useOn_size i x).symm
      name := (hm.name?_useOn i x i).symm
      usage := ?_
      made := ?_
      unregistered := ?_ }
  · intro j hj
    exact (usage?_useOn_other hj.symm x).symm
  · rw [name?_eq, Option.map_eq_some_iff] at hname
    obtain ⟨u, hu, _⟩ := hname
    exact usage?_isSome.mp (Option.isSome_iff_exists.mpr ⟨u, hu⟩)
  · intro other hfind
    obtain ⟨c, hc, hother, _⟩ := hm.registered (other, i) (hm.find?_eq_some.mp hfind)
    have hsame : other = service := by
      rw [name?, hc] at hname
      exact hother.symm.trans (Option.some.inj hname)
    rw [hsame] at hfind
    exact hforgotten hfind

end Management

/-! ## New circuits -/

/-- A circuit that was not used yet: it is closed and not forced open, its window is empty, it turned
nobody away, and nobody holds a permit of it. -/
structure Usage.Untouched (u : Usage) : Prop where
  state : u.state = .closed
  unforced : u.circuit.breaker.isForced = false
  outcomes : u.circuit.outcomes u.instant = []
  rejections : u.circuit.breaker.rejections = 0
  permits : u.permits = []

/-- Every new circuit is so. -/
theorem Usage.start_untouched (name : String) (config : Config) (draws : Draws)
    (callbacks : Callbacks) (classifier : Option Classifier) (instant : Instant) :
    (start name config draws callbacks classifier instant).Untouched where
  state := rfl
  unforced := rfl
  outcomes := by
    simp only [start, Circuit.outcomes, Breaker.fresh, Config.window]
    cases config.windowKind <;> rfl
  rejections := rfl
  permits := rfl

/-! ## Steps that only look -/

/-- Whether a step of a session reads something off the registry or treats the circuits that are
there, but has no use for a circuit that is not. -/
def Step.looks {α : Type} : Step α → Bool
  | .state (some _) => true
  | .metrics (some _) => true
  | .allMetrics => true
  | .names => true
  | .breaker _ => true
  | .subscribe _ => true
  | .reset (some _) => true
  | .resetAll => true
  | .checkTransitions => true
  | _ => false

/-- Treating all circuits makes none. -/
theorem Registry.foldl_size {operation : Fleet → String × Nat → Fleet}
    (hoperation : ∀ f entry, (operation f entry).circuits.length = f.circuits.length)
    (entries : List (String × Nat)) (f : Fleet) :
    (entries.foldl operation f).circuits.length = f.circuits.length := by
  induction entries generalizing f with
  | nil => rfl
  | cons entry rest ih => exact (ih _).trans (hoperation f entry)

/-- Resetting them makes none. -/
theorem Registry.resetAll_size (r : Registry) (f : Fleet) :
    (r.resetAll f).circuits.length = f.circuits.length :=
  foldl_size (fun f entry => f.perform_size entry.2 Circuit.reset) _ _

/-- Checking them makes none. -/
theorem Registry.checkAll_size (r : Registry) (f : Fleet) :
    (r.checkAll f).circuits.length = f.circuits.length := by
  apply foldl_size
  intro f entry
  split
  · split
    · exact f.perform_size entry.2 Circuit.check
    · rfl
  · rfl

/-- Steps that only look never make a circuit or register one. -/
theorem Session.run_looks {α : Type} {step : Step α} (hstep : step.looks = true) (s : Session)
    (one : StepRunner α) (home scope : Session.Scope) :
    (s.run one home scope step).1.registry = s.registry ∧
      (s.run one home scope step).1.fleet.circuits.length = s.fleet.circuits.length := by
  have hask : ∀ view : Registry → Answer α, (s.ask view).1 = s := by
    intro view
    unfold Session.ask
    split <;> rfl
  have hsweep : ∀ operation : Registry → Fleet → Fleet,
      (∀ r f, (operation r f).circuits.length = f.circuits.length) →
      (s.sweepAll (α := α) operation).1.registry = s.registry ∧
        (s.sweepAll (α := α) operation).1.fleet.circuits.length = s.fleet.circuits.length := by
    intro operation hoperation
    unfold Session.sweepAll
    split
    · exact ⟨rfl, rfl⟩
    · exact ⟨rfl, hoperation _ _⟩
  cases step with
  | state service =>
      cases service with
      | none => cases hstep
      | some service => simp only [Session.run, hask, and_self]
  | metrics service =>
      cases service with
      | none => cases hstep
      | some service => simp only [Session.run, hask, and_self]
  | allMetrics => simp only [Session.run, hask, and_self]
  | names => simp only [Session.run, hask, and_self]
  | breaker service => simp only [Session.run, hask, and_self]
  | subscribe id => exact ⟨rfl, rfl⟩
  | reset service =>
      cases service with
      | none => cases hstep
      | some service =>
          simp only [Session.run, Session.resetService]
          split
          · exact ⟨rfl, rfl⟩
          · split
            · exact ⟨rfl, rfl⟩
            · exact ⟨rfl, s.fleet.perform_size _ _⟩
  | resetAll => exact hsweep _ Registry.resetAll_size
  | checkTransitions => exact hsweep _ Registry.checkAll_size
  | _ => cases hstep

/-! ## One circuit at a time -/

namespace Management

/-- What holds of a service at any time.  All its callers get the one circuit that is registered for
it, until it is forgotten; if there is none, the first of them makes a new one.  The circuit has the
name of the service and its configuration, and what is done with earlier ones, then or later, makes
no difference to any answer. -/
structure Incarnation (m : Management) (service : String) (config : Config) (known : Bool) :
    Prop where
  configFor : m.registry.configFor service = config
  known : (m.registry.find? service).isSome = known
  registered : ∀ i, (service, i) ∈ m.registry.registered → m.registry.find? service = some i ∧
    ∃ u, m.usage? i = some u ∧ u.circuit.breaker.name = service ∧
      u.circuit.breaker.config = config
  obtains : ∀ d, d.obtains service = true →
    (m.deed d).registry.find? service = some (m.target service) ∧
      ∀ touch ∈ (m.prepare d).touches d, touch.1 = m.target service
  again : ∀ i, m.registry.find? service = some i → m.target service = i ∧
    ∀ ds, (∀ d ∈ ds, d.forgets service = false) → (m.deeds ds).registry.find? service = some i
  afresh : m.registry.find? service = none → m.usage? (m.target service) = none ∧
    ∀ d, d.obtains service = true → ∃ u, (m.prepare d).usage? (m.target service) = some u ∧
      u.Untouched ∧ u.circuit.breaker.name = service ∧ u.circuit.breaker.config = config
  earlier : ∀ k i x ds, (m.numbers service)[k]? = some i → m.registry.find? service ≠ some i →
    (m.deeds ds).AnswersAlike ((m.deed (.use service k x)).deeds ds)

/-- Those who get hold of the circuit of a service get the one that it has or gets. -/
theorem obtains_target {m : Management} {d : Deed} {service : String}
    (hd : d.obtains service = true) :
    m.prepare d = m.obtained service ∧
      ∀ touch ∈ (m.prepare d).touches d, touch.1 = m.target service := by
  have htouches : ∀ x : Use, ∀ touch ∈
      ((m.obtained service).registry.find? service).toList.map (·, x),
      touch.1 = m.target service := by
    intro x touch htouch
    rw [find?_obtained] at htouch
    rw [List.mem_singleton.mp htouch]
  cases d with
  | obtain other =>
      cases of_decide_eq_true hd
      exact ⟨rfl, List.forall_mem_nil _⟩
  | acquire other =>
      cases of_decide_eq_true hd
      exact ⟨rfl, htouches .acquire⟩
  | forceOpen other =>
      cases of_decide_eq_true hd
      exact ⟨rfl, htouches .forceOpen⟩
  | _ => cases hd

/-- So it is in every registry that is in order. -/
theorem Orderly.incarnation {m : Management} (h : m.Orderly) (service : String) :
    m.Incarnation service (m.registry.configFor service) (m.registry.find? service).isSome where
  configFor := rfl
  known := rfl
  registered i hi := by
    obtain ⟨c, hc, hname, hconfig⟩ := h.registered _ hi
    refine ⟨h.find?_eq_some.mpr hi, ⟨c, m.fleet.instant, m.permits i⟩, ?_, hname, hconfig⟩
    exact usage?_eq_some.mpr ⟨hc, rfl, rfl⟩
  obtains d hd := by
    refine ⟨?_, (obtains_target hd).2⟩
    rw [deed_registry, find?_prepare, if_pos hd]
  again i hi := ⟨(obtained_of_find hi).2, fun ds hds => find?_deeds_of_find hi hds⟩
  afresh hnone := by
    rw [(obtained_of_none hnone).2]
    refine ⟨usage?_eq_none.mpr (List.getElem?_eq_none (Nat.le_refl _)), ?_⟩
    intro d hd
    have hnew := usage?_obtained_of_none hnone (h.unmade _ (Nat.le_refl _)) m.fleet.circuits.length
    rw [if_pos rfl] at hnew
    rw [(obtains_target hd).1]
    exact ⟨_, hnew, Usage.start_untouched _ _ _ _ _ _, rfl, rfl⟩
  earlier k i x ds hi hforgotten :=
    ((h.apart_use hi hforgotten x).deeds h (h.deed _) ds).answers (h.deeds ds)
      ((h.deed _).deeds ds)

/-- A deed that does not get hold of a circuit makes none and registers none. -/
theorem deed_makes_nothing {m : Management} {d : Deed}
    (hd : ∀ service, d.obtains service = false) :
    (m.deed d).fleet.circuits.length = m.fleet.circuits.length ∧
      ∀ service i, (m.deed d).registry.find? service = some i →
        m.registry.find? service = some i := by
  have hsize : (m.prepare d).fleet.circuits.length = m.fleet.circuits.length := by
    cases d with
    | obtain service => simpa [Deed.obtains] using hd service
    | acquire service => simpa [Deed.obtains] using hd service
    | forceOpen service => simpa [Deed.obtains] using hd service
    | configure service config =>
        obtain ⟨_, hfleet⟩ := m.configured_fleet service config
        simp only [prepare, hfleet]
    | draw service k draws =>
        simp only [prepare]
        split
        · rfl
        · simp only [drawn, List.length_modify]
    | _ => rfl
  refine ⟨(useAll_size _ _).trans hsize, ?_⟩
  intro service i hfind
  rw [deed_registry, find?_prepare, hd service] at hfind
  cases hforgets : d.forgets service with
  | true => simp [hforgets] at hfind
  | false => simpa [hforgets] using hfind

/-- In every run each service has one circuit at a time, which has the configuration that the service
was given last; the next one is new, and the earlier ones make no difference.  Whatever does not get
hold of a circuit makes none. -/
theorem one_incarnation (standard : Config) (overrides : List (String × Config))
    (classifier : Option Classifier) (listeners : Nat) (channel : Channel) (ds : List Deed) :
    let m := (start standard overrides classifier listeners channel).deeds ds
    (m.registry.registered.map Prod.fst).Nodup ∧
    (∀ service, m.Incarnation service
      (standard.latest (overrides ++ ds.filterMap Deed.given?) service)
      (Deed.known service ds)) ∧
    (∀ d, (∀ service, d.obtains service = false) →
      (m.deed d).fleet.circuits.length = m.fleet.circuits.length ∧
        ∀ service i, (m.deed d).registry.find? service = some i →
          m.registry.find? service = some i) ∧
    ∀ {α : Type} {step : Step α}, step.looks = true →
      ∀ (s : Session) (one : StepRunner α) (home scope : Session.Scope),
        (s.run one home scope step).1.registry = s.registry ∧
          (s.run one home scope step).1.fleet.circuits.length = s.fleet.circuits.length := by
  intro m
  have horder : m.Orderly :=
    (orderly_start standard overrides classifier listeners channel).deeds ds
  refine ⟨horder.distinct, ?_, fun d hd => deed_makes_nothing hd,
    fun hstep s one home scope => Session.run_looks hstep s one home scope⟩
  intro service
  rw [← configFor_deeds standard overrides classifier listeners channel ds service,
    ← find?_deeds standard overrides classifier listeners channel ds service]
  exact horder.incarnation service

/-- A service is removed and used again while a call of it is under way. -/
def replaced : List Deed := [.acquire "db", .remove "db", .acquire "db"]

/-- When that call fails, the removed circuit opens; the service goes on with its new circuit, which
is closed, and nobody who asks for it can tell. -/
theorem one_incarnation_replaced :
    let m := (start .brief [] none 1 ⟨4, []⟩).deeds replaced
    let n := m.deed (.use "db" 0 (.complete 0 .failed))
    m.Incarnation "db" .brief true ∧ m.AnswersAlike n ∧ n.registry.find? "db" = some 1 ∧
      (n.usage? 0).map Usage.state = some .opened ∧ (n.usage? 1).map Usage.state = some .closed := by
  have hone := (one_incarnation .brief [] none 1 ⟨4, []⟩ replaced).2.1 "db"
  refine ⟨hone, ?_, by decide +kernel, by decide +kernel, by decide +kernel⟩
  exact hone.earlier 0 0 (.complete 0 .failed) [] (by decide +kernel) (by decide +kernel)

end Management

end FailFast
