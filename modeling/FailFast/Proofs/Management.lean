import Mathlib.Data.List.Nodup
import Mathlib.Logic.Function.Basic
import FailFast.Proofs.Tables
import FailFast.Proofs.Usage.Changes
import FailFast.Registry

/-!
# Registries in use

Callers ask a registry for circuits and use them for as long as they like.  The circuit of a service
may be removed or replaced while a call that it admitted is still under way, and whoever holds it
goes on using it.  So what callers do is about the circuit registered for a service now, or about any
circuit that was ever made for it.

Everything that is done has two parts.  It first looks up or changes what is registered, or lets time
pass; then it uses circuits one after the other, often one or none.  What is kept by each first part
and by each use of a circuit is kept by every run.

Main results:

- Theorem `Management.useOn_some`: to use one circuit of many is to use it alone.
- Theorem `Management.prepare_cases`: the few things that the first part of a deed can do.
- Theorem `Management.Orderly.deed` and theorem `Management.Orderly.deeds`: in every run a service
  has at most one circuit registered, which has its name and its configuration.
-/

namespace FailFast

/-! ## Deeds -/

/-- An order in which registered services are visited. -/
structure Tour where
  arrange : List (String × Nat) → List (String × Nat)
  perm : ∀ entries, (arrange entries).Perm entries

/-- In the order of their names. -/
def Tour.byName : Tour where
  arrange entries := entries.mergeSort fun a b => a.1 ≤ b.1
  perm _ := List.mergeSort_perm _ _

/-- The other way round than they are found. -/
def Tour.backwards : Tour where
  arrange entries := entries.reverse
  perm := List.reverse_perm

/-- What callers do with a registry and with the circuits that were made for services.  Reading
changes nothing, so it is no deed. -/
inductive Deed where
  | wait (d : Duration)
  /-- Get hold of the circuit of a service. -/
  | obtain (service : String)
  /-- Ask for a permit for a call of a service. -/
  | acquire (service : String)
  | forceOpen (service : String)
  | reset (service : String)
  | resetAll (tour : Tour)
  /-- Apply the transitions due to all circuits that probe by themselves. -/
  | checkAll (tour : Tour)
  | remove (service : String)
  | configure (service : String) (config : Config)
  /-- Use a circuit that was made for a service, the first one or a later one.  It may be registered
  no more; calls that it admitted still end, and holders still use it. -/
  | use (service : String) (k : Nat) (x : Use)
  /-- From now on the random numbers of the jittered waits of such a circuit come out as given. -/
  | draw (service : String) (k : Nat) (draws : Draws)

namespace Deed

/-- The service that a deed names. -/
def service? : Deed → Option String
  | wait _ => none
  | obtain service => some service
  | acquire service => some service
  | forceOpen service => some service
  | reset service => some service
  | resetAll _ => none
  | checkAll _ => none
  | remove service => some service
  | configure service _ => some service
  | use service _ _ => some service
  | draw service _ _ => some service

/-- Whether a deed is about a service, or about all of them. -/
def concerns (service : String) (d : Deed) : Bool := d.service?.all (· = service)

/-- Whether a deed gets hold of the circuit of a service, and makes one if there is none. -/
def obtains (service : String) : Deed → Bool
  | obtain other => other = service
  | acquire other => other = service
  | forceOpen other => other = service
  | _ => false

/-- Whether a deed forgets the circuit of a service. -/
def forgets (service : String) : Deed → Bool
  | remove other => other = service
  | configure other _ => other = service
  | _ => false

end Deed

/-! ## Registries in use -/

/-- A registry with all circuits that it made and the permits of each that callers hold. -/
structure Management where
  registry : Registry
  fleet : Fleet
  /-- The permits of the circuit of a number, newest first. -/
  permits : Nat → List Permit

namespace Management

/-- A new registry; of the given overrides later ones count. -/
def start (standard : Config) (overrides : List (String × Config))
    (classifier : Option Classifier) (listeners : Nat) (channel : Channel) : Management where
  registry := .start standard overrides.reverse classifier listeners
  fleet := .start channel
  permits _ := []

/-- The circuit of a number in use. -/
def usage? (m : Management) (i : Nat) : Option Usage :=
  m.fleet.circuits[i]?.map fun c => ⟨c, m.fleet.instant, m.permits i⟩

/-- The name of the circuit of a number. -/
def name? (m : Management) (i : Nat) : Option String :=
  m.fleet.circuits[i]?.map (·.breaker.name)

/-- The numbers of the circuits made for a service, in the order in which they were made. -/
def numbers (m : Management) (service : String) : List Nat :=
  (List.range m.fleet.circuits.length).filter fun i => m.name? i = some service

/-- Use one circuit, if there is one of that number.  All circuits share one time, which passes by
deeds of its own. -/
def useOn (m : Management) (i : Nat) (x : Use) : Management × Reply :=
  match m.fleet.perform i fun c instant =>
      let (u, notes, reply) := Usage.step ⟨c, instant, m.permits i⟩ x
      (u.circuit, instant, notes, u.permits, reply) with
  | (fleet, none) => ({ m with fleet }, .nothing)
  | (fleet, some (permits, reply)) =>
    ({ m with fleet, permits := Function.update m.permits i permits }, reply)

/-- Use circuits one after the other. -/
def useAll (m : Management) : List (Nat × Use) → Management × List Reply
  | [] => (m, [])
  | (i, x) :: rest =>
    let (m, reply) := m.useOn i x
    let (m, replies) := m.useAll rest
    (m, reply :: replies)

/-- Whether the circuit of a number probes by itself. -/
def probesItself (m : Management) (i : Nat) : Bool :=
  (m.fleet.circuits[i]?.map (·.breaker.config.probesItself)).getD false

/-- Let time pass. -/
def waited (m : Management) (d : Duration) : Management := { m with fleet := m.fleet.wait d }

/-- Look up the circuit of a service, or make it. -/
def obtained (m : Management) (service : String) : Management :=
  let (registry, fleet, _) := m.registry.obtain m.fleet service
  { m with registry, fleet }

/-- Forget the circuit of a service. -/
def removed (m : Management) (service : String) : Management :=
  { m with registry := (m.registry.remove service).1 }

/-- Give a service a configuration of its own and forget its circuit. -/
def configured (m : Management) (service : String) (config : Config) : Management :=
  let (registry, fleet) := m.registry.configure m.fleet service config
  { m with registry, fleet }

/-- Let the random numbers of one circuit come out as given. -/
def drawn (m : Management) (i : Nat) (draws : Draws) : Management :=
  { m with
    fleet :=
      { m.fleet with
        circuits := m.fleet.circuits.modify i fun c =>
          { c with breaker := { c.breaker with draws } } } }

/-- The first part of a deed: what it does before any circuit is used. -/
def prepare (m : Management) : Deed → Management
  | .wait d => m.waited d
  | .obtain service => m.obtained service
  | .acquire service => m.obtained service
  | .forceOpen service => m.obtained service
  | .remove service => m.removed service
  | .configure service config => m.configured service config
  | .draw service k draws =>
    match (m.numbers service)[k]? with
    | none => m
    | some i => m.drawn i draws
  | .reset _ => m
  | .resetAll _ => m
  | .checkAll _ => m
  | .use _ _ _ => m

/-- The second part of a deed: the circuits that it uses in order, and what it does with them. -/
def touches (m : Management) : Deed → List (Nat × Use)
  | .acquire service => (m.registry.find? service).toList.map (·, .acquire)
  | .forceOpen service => (m.registry.find? service).toList.map (·, .forceOpen)
  | .reset service => (m.registry.find? service).toList.map (·, .reset)
  | .resetAll tour => (tour.arrange m.registry.registered).map (·.2, .reset)
  | .checkAll tour =>
    ((tour.arrange m.registry.registered).filter (m.probesItself ·.2)).map (·.2, .check)
  | .use service k x => (m.numbers service)[k]?.toList.map (·, x)
  | _ => []

/-- Do something; the answer is what is told to whoever uses a circuit. -/
def step (m : Management) (d : Deed) : Management × List Reply :=
  (m.prepare d).useAll ((m.prepare d).touches d)

/-- The registry after something was done. -/
def deed (m : Management) (d : Deed) : Management := (m.step d).1

/-- What is told to whoever does something. -/
def replies (m : Management) (d : Deed) : List Reply := (m.step d).2

/-- Several deeds in order. -/
def deeds (m : Management) (ds : List Deed) : Management := ds.foldl deed m

/-! ## Using circuits -/

section Use

variable {m : Management} {i j : Nat} {u : Usage}

theorem usage?_eq_some :
    m.usage? i = some u ↔ m.fleet.circuits[i]? = some u.circuit ∧ m.fleet.instant = u.instant ∧
      m.permits i = u.permits := by
  obtain ⟨circuit, instant, permits⟩ := u
  simp only [usage?, Option.map_eq_some_iff, Usage.mk.injEq]
  constructor
  · rintro ⟨c, hc, rfl, hinstant, hpermits⟩
    exact ⟨hc, hinstant, hpermits⟩
  · rintro ⟨hc, hinstant, hpermits⟩
    exact ⟨circuit, hc, rfl, hinstant, hpermits⟩

theorem usage?_eq_none : m.usage? i = none ↔ m.fleet.circuits[i]? = none := by
  simp [usage?]

/-- Where there is no circuit there is nothing to use. -/
theorem useOn_none (h : m.usage? i = none) (x : Use) : m.useOn i x = (m, .nothing) := by
  rw [usage?_eq_none] at h
  simp only [useOn, Fleet.perform, h]

/-- To use one circuit of many is to use it alone; what it notes is noted, and its transitions are
published if it publishes. -/
theorem useOn_some (h : m.usage? i = some u) (x : Use) :
    m.useOn i x =
      ({ registry := m.registry
         fleet :=
          { instant := m.fleet.instant
            circuits := m.fleet.circuits.set i (u.use x).circuit
            channel :=
              if u.circuit.callbacks.publishes then
                m.fleet.channel.publish (u.notes x).transitions
              else m.fleet.channel
            journal := m.fleet.journal ++ u.notes x }
         permits := Function.update m.permits i (u.use x).permits }, u.reply x) := by
  obtain ⟨hcircuit, hinstant, hpermits⟩ := usage?_eq_some.mp h
  obtain ⟨circuit, instant, permits⟩ := u
  simp only at hcircuit hinstant hpermits
  subst hinstant hpermits
  simp only [useOn, Fleet.perform, hcircuit]
  rfl

/-- A circuit that was used is as it is when it is used alone, only that no time passed. -/
theorem usage?_useOn (h : m.usage? i = some u) (x : Use) :
    (m.useOn i x).1.usage? i = some { u.use x with instant := u.instant } := by
  obtain ⟨hcircuit, hinstant, _⟩ := usage?_eq_some.mp h
  have hi : i < m.fleet.circuits.length := (List.getElem?_eq_some_iff.mp hcircuit).1
  rw [usage?_eq_some, useOn_some h]
  exact ⟨List.getElem?_set_self hi, hinstant, Function.update_self i _ _⟩

/-- The other circuits are as they were. -/
theorem usage?_useOn_other (hij : i ≠ j) (x : Use) : (m.useOn i x).1.usage? j = m.usage? j := by
  cases h : m.usage? i with
  | none => rw [useOn_none h]
  | some u =>
      rw [useOn_some h]
      simp only [usage?, List.getElem?_set_ne hij, Function.update_of_ne hij.symm]

@[simp]
theorem useOn_registry (m : Management) (i : Nat) (x : Use) :
    (m.useOn i x).1.registry = m.registry := by
  cases h : m.usage? i with
  | none => rw [useOn_none h]
  | some u => rw [useOn_some h]

@[simp]
theorem useOn_instant (m : Management) (i : Nat) (x : Use) :
    (m.useOn i x).1.fleet.instant = m.fleet.instant := by
  cases h : m.usage? i with
  | none => rw [useOn_none h]
  | some u => rw [useOn_some h]

@[simp]
theorem useOn_size (m : Management) (i : Nat) (x : Use) :
    (m.useOn i x).1.fleet.circuits.length = m.fleet.circuits.length := by
  cases h : m.usage? i with
  | none => rw [useOn_none h]
  | some u =>
      rw [useOn_some h]
      exact List.length_set

/-- What is kept by every use of a circuit is kept when circuits are used one after the other. -/
theorem useAll_induction {P : Management → Prop} (huse : ∀ m i x, P m → P (m.useOn i x).1)
    {m : Management} (hm : P m) (touches : List (Nat × Use)) : P (m.useAll touches).1 := by
  induction touches generalizing m with
  | nil => exact hm
  | cons touch rest ih => exact ih (huse m touch.1 touch.2 hm)

/-- Using circuits leaves what is registered. -/
@[simp]
theorem useAll_registry (m : Management) (touches : List (Nat × Use)) :
    (m.useAll touches).1.registry = m.registry :=
  useAll_induction (P := fun n => n.registry = m.registry)
    (fun n i x hn => (n.useOn_registry i x).trans hn) rfl touches

/-- Nor does it make a circuit. -/
@[simp]
theorem useAll_size (m : Management) (touches : List (Nat × Use)) :
    (m.useAll touches).1.fleet.circuits.length = m.fleet.circuits.length :=
  useAll_induction (P := fun n => n.fleet.circuits.length = m.fleet.circuits.length)
    (fun n i x hn => (n.useOn_size i x).trans hn) rfl touches

/-- What is registered after a deed is what its first part registered. -/
@[simp]
theorem deed_registry (m : Management) (d : Deed) : (m.deed d).registry = (m.prepare d).registry :=
  useAll_registry _ _

end Use

/-! ## Looking up services -/

section Lookup

variable {m : Management} {service other : String}

/-- The number of the circuit that a service has or gets. -/
def target (m : Management) (service : String) : Nat := (m.registry.obtain m.fleet service).2.2

/-- The circuit of a service, once obtained, is registered for it. -/
@[simp]
theorem find?_obtained (m : Management) (service : String) :
    (m.obtained service).registry.find? service = some (m.target service) :=
  m.registry.obtain_lookup m.fleet service

/-- One that is registered is the one obtained. -/
theorem obtained_of_find {i : Nat} (h : m.registry.find? service = some i) :
    m.obtained service = m ∧ m.target service = i := by
  unfold obtained target
  rw [Registry.obtain_of_find h]
  exact ⟨rfl, rfl⟩

/-- If there is none, a new one is made. -/
theorem obtained_of_none (h : m.registry.find? service = none) :
    m.obtained service =
      { m with
        registry :=
          { m.registry with
            registered := (service, m.fleet.circuits.length) :: m.registry.registered }
        fleet :=
          (m.fleet.note (.created service)).add (m.registry.create service m.fleet.instant) } ∧
      m.target service = m.fleet.circuits.length := by
  unfold obtained target Registry.obtain
  rw [h]
  exact ⟨rfl, rfl⟩

/-- Obtaining the circuit of a service leaves the others. -/
theorem find?_obtained_other (hother : other ≠ service) :
    (m.obtained service).registry.find? other = m.registry.find? other := by
  cases h : m.registry.find? service with
  | some i => rw [(obtained_of_find h).1]
  | none =>
      rw [(obtained_of_none h).1]
      simp only [Registry.find?, List.lookup_cons, beq_false_of_ne hother]

/-- What is filtered out is not found, and all else is. -/
theorem lookup_forget (entries : List (String × Nat)) (service other : String) :
    (entries.filter (·.1 ≠ service)).lookup other =
      if other = service then none else entries.lookup other := by
  induction entries with
  | nil => simp
  | cons entry rest ih =>
      by_cases hentry : entry.1 = service
      · rw [List.filter_cons_of_neg (by simp [hentry]), ih]
        by_cases hother : other = service
        · simp [hother]
        · rw [if_neg hother, if_neg hother, List.lookup_cons,
            beq_false_of_ne (by rw [hentry]; exact hother)]
      · rw [List.filter_cons_of_pos (by simp [hentry]), List.lookup_cons, List.lookup_cons, ih]
        by_cases hother : other = service
        · rw [if_pos hother, if_pos hother, hother, beq_false_of_ne (Ne.symm hentry)]
        · rw [if_neg hother, if_neg hother]

/-- A service that was removed has no circuit, and the others have theirs. -/
theorem find?_removed (m : Management) (service other : String) :
    (m.removed service).registry.find? other =
      if other = service then none else m.registry.find? other :=
  lookup_forget m.registry.registered service other

/-- So it is when a service is configured. -/
theorem find?_configured (m : Management) (service : String) (config : Config) (other : String) :
    (m.configured service config).registry.find? other =
      if other = service then none else m.registry.find? other :=
  lookup_forget m.registry.registered service other

/-- A new configuration leaves all circuits; it may be noted. -/
theorem configured_fleet (m : Management) (service : String) (config : Config) :
    ∃ journal, (m.configured service config).fleet = { m.fleet with journal } := by
  simp only [configured, Registry.configure]
  split
  · exact ⟨_, rfl⟩
  · exact ⟨m.fleet.journal, rfl⟩

/-- A configured service has the configuration that it was given. -/
@[simp]
theorem configFor_configured (m : Management) (service : String) (config : Config) :
    (m.configured service config).registry.configFor service = config :=
  m.registry.configFor_override m.fleet service config

/-- Configuring a service leaves the configurations of the others. -/
theorem configFor_configured_other (config : Config) (hother : other ≠ service) :
    (m.configured service config).registry.configFor other = m.registry.configFor other := by
  have hlookup : ((service, config) :: m.registry.overrides).lookup other =
      m.registry.overrides.lookup other := by
    rw [List.lookup_cons, beq_false_of_ne hother]
  exact congrArg (Option.getD · m.registry.standard) hlookup

end Lookup

/-! ## The circuits after the first part of a deed -/

section Prepared

variable {m : Management} {i j : Nat} {service : String}

/-- The name of a circuit in use. -/
theorem name?_eq (m : Management) (i : Nat) :
    m.name? i = (m.usage? i).map (·.circuit.breaker.name) := by
  rw [name?, usage?, Option.map_map]
  rfl

/-- There are circuits of all numbers up to their count. -/
theorem usage?_isSome : (m.usage? i).isSome = true ↔ i < m.fleet.circuits.length := by
  simp [usage?]

/-- When time passes it passes for all circuits. -/
theorem usage?_waited (m : Management) (d : Duration) (i : Nat) :
    (m.waited d).usage? i = (m.usage? i).map (·.use (.wait d)) := by
  rw [usage?, usage?, Option.map_map]
  rfl

/-- A circuit that is made is new; the others are as they were. -/
theorem usage?_obtained_of_none (hfind : m.registry.find? service = none)
    (hunmade : m.permits m.fleet.circuits.length = []) (i : Nat) :
    (m.obtained service).usage? i =
      if i = m.fleet.circuits.length then
        some (.start service (m.registry.configFor service) .halves m.registry.callbacks
          m.registry.classifier m.fleet.instant)
      else m.usage? i := by
  rw [(obtained_of_none hfind).1]
  simp only [usage?, Fleet.add, Fleet.note]
  by_cases hi : i = m.fleet.circuits.length
  · rw [if_pos hi, hi, List.getElem?_concat_length, Option.map_some, hunmade]
    rfl
  · rw [if_neg hi]
    rcases Nat.lt_or_gt_of_ne hi with hlt | hgt
    · rw [List.getElem?_append_left hlt]
    · rw [List.getElem?_eq_none (by rw [List.length_append]; exact hgt),
        List.getElem?_eq_none (Nat.le_of_lt hgt)]

/-- A new configuration changes no circuit. -/
theorem usage?_configured (m : Management) (service : String) (config : Config) (i : Nat) :
    (m.configured service config).usage? i = m.usage? i := by
  obtain ⟨journal, hfleet⟩ := m.configured_fleet service config
  unfold usage?
  rw [hfleet]
  rfl

/-- Nor its name. -/
theorem numbers_configured (m : Management) (service : String) (config : Config) (other : String) :
    (m.configured service config).numbers other = m.numbers other := by
  obtain ⟨journal, hfleet⟩ := m.configured_fleet service config
  unfold numbers name?
  rw [hfleet]

/-- Only the circuit whose random numbers are drawn gets others. -/
theorem usage?_drawn (m : Management) (i : Nat) (draws : Draws) (j : Nat) :
    (m.drawn i draws).usage? j =
      if i = j then (m.usage? j).map fun u => u.put { u.circuit.breaker with draws }
      else m.usage? j := by
  simp only [usage?, drawn, List.getElem?_modify]
  cases m.fleet.circuits[j]? with
  | none => split <;> rfl
  | some c =>
      simp only [Option.map_eq_map, Option.map_some]
      split <;> rfl

/-- The circuit of a number is the one in use. -/
theorem circuit_eq (m : Management) (i : Nat) :
    m.fleet.circuits[i]? = (m.usage? i).map (·.circuit) := by
  rw [usage?, Option.map_map]
  exact Option.map_id'.symm

/-- Making a circuit leaves the names of the others. -/
theorem name?_obtained (hi : i < m.fleet.circuits.length) (service : String) :
    (m.obtained service).name? i = m.name? i := by
  cases hfind : m.registry.find? service with
  | some j => rw [(obtained_of_find hfind).1]
  | none =>
      rw [(obtained_of_none hfind).1]
      simp only [name?, Fleet.add, Fleet.note, List.getElem?_append_left hi]

/-- Random numbers change no name. -/
theorem name?_drawn (m : Management) (i : Nat) (draws : Draws) (j : Nat) :
    (m.drawn i draws).name? j = m.name? j := by
  rw [name?_eq, name?_eq, usage?_drawn]
  cases m.usage? j with
  | none => split <;> rfl
  | some u => split <;> rfl

/-- The first part of a deed does nothing, or one of a few things. -/
theorem prepare_cases {P : Management → Prop} (hsame : P m) (hwaited : ∀ d, P (m.waited d))
    (hobtained : ∀ service, P (m.obtained service))
    (hremoved : ∀ service, P (m.removed service))
    (hconfigured : ∀ service config, P (m.configured service config))
    (hdrawn : ∀ i draws, P (m.drawn i draws)) (d : Deed) : P (m.prepare d) := by
  cases d with
  | wait d => exact hwaited d
  | obtain service => exact hobtained service
  | acquire service => exact hobtained service
  | forceOpen service => exact hobtained service
  | remove service => exact hremoved service
  | configure service config => exact hconfigured service config
  | draw service k draws =>
      simp only [prepare]
      split
      · exact hsame
      · exact hdrawn _ draws
  | reset service => exact hsame
  | resetAll tour => exact hsame
  | checkAll tour => exact hsame
  | use service k x => exact hsame

/-- No deed loses a circuit, and circuits keep their names. -/
theorem name?_prepare (hi : i < m.fleet.circuits.length) (d : Deed) :
    i < (m.prepare d).fleet.circuits.length ∧ (m.prepare d).name? i = m.name? i := by
  apply prepare_cases (P := fun n => i < n.fleet.circuits.length ∧ n.name? i = m.name? i)
  · exact ⟨hi, rfl⟩
  · exact fun d => ⟨hi, rfl⟩
  · intro service
    refine ⟨?_, name?_obtained hi service⟩
    cases hfind : m.registry.find? service with
    | some j => rwa [(obtained_of_find hfind).1]
    | none =>
        rw [(obtained_of_none hfind).1, Fleet.add, List.length_append]
        exact Nat.lt_succ_of_lt hi
  · exact fun service => ⟨hi, rfl⟩
  · intro service config
    obtain ⟨journal, hfleet⟩ := m.configured_fleet service config
    rw [name?, hfleet]
    exact ⟨hi, rfl⟩
  · intro j draws
    refine ⟨?_, m.name?_drawn j draws i⟩
    simpa [drawn] using hi

/-- The numbers of the circuits of a service depend on the names only. -/
theorem numbers_congr {m n : Management}
    (hsize : m.fleet.circuits.length = n.fleet.circuits.length)
    (hname : ∀ i, m.name? i = n.name? i) (service : String) :
    m.numbers service = n.numbers service := by
  unfold numbers
  rw [hsize]
  exact List.filter_congr fun i _ => by rw [hname i]

/-- So random numbers do not change them. -/
theorem numbers_drawn (m : Management) (i : Nat) (draws : Draws) (service : String) :
    (m.drawn i draws).numbers service = m.numbers service := by
  apply numbers_congr
  · simp only [drawn, List.length_modify]
  · exact m.name?_drawn i draws

/-- They are the numbers of the circuits of its name. -/
theorem mem_numbers : i ∈ m.numbers service ↔ m.name? i = some service := by
  simp only [numbers, List.mem_filter, List.mem_range, decide_eq_true_eq, and_iff_right_iff_imp]
  intro hname
  rw [name?_eq, Option.map_eq_some_iff] at hname
  obtain ⟨u, hu, _⟩ := hname
  exact usage?_isSome.mp (Option.isSome_iff_exists.mpr ⟨u, hu⟩)

/-- Each is there once. -/
theorem numbers_nodup (m : Management) (service : String) : (m.numbers service).Nodup :=
  List.nodup_range.filter _

/-- A circuit that is made is the last one of its service. -/
theorem numbers_obtained_of_none (hfind : m.registry.find? service = none) (other : String) :
    (m.obtained service).numbers other =
      m.numbers other ++ if service = other then [m.fleet.circuits.length] else [] := by
  have hnew : (m.obtained service).name? m.fleet.circuits.length = some service := by
    rw [(obtained_of_none hfind).1]
    simp only [name?, Fleet.add, Fleet.note, List.getElem?_concat_length]
    rfl
  have hsize : (m.obtained service).fleet.circuits.length = m.fleet.circuits.length + 1 := by
    rw [(obtained_of_none hfind).1]
    exact List.length_append
  unfold numbers
  rw [hsize, List.range_succ, List.filter_append]
  congr 1
  · exact List.filter_congr fun i hi => by rw [name?_obtained (List.mem_range.mp hi)]
  · rw [List.filter_singleton, hnew]
    simp only [Option.some.injEq, Bool.cond_decide]

end Prepared

/-! ## What is registered -/

/-- Each service has at most one circuit registered, of its name and its configuration; all circuits
have the callbacks of the registry, and nobody has permits of circuits that are not made yet. -/
structure Orderly (m : Management) : Prop where
  distinct : (m.registry.registered.map Prod.fst).Nodup
  registered : ∀ entry ∈ m.registry.registered, ∃ c, m.fleet.circuits[entry.2]? = some c ∧
    c.breaker.name = entry.1 ∧ c.breaker.config = m.registry.configFor entry.1
  callbacks : ∀ c ∈ m.fleet.circuits, c.callbacks = m.registry.callbacks
  unmade : ∀ i, m.fleet.circuits.length ≤ i → m.permits i = []
  told : m.fleet.journal.Told m.registry.listeners

/-- The callbacks of a registry only watch. -/
theorem callbacks_passive (r : Registry) : r.callbacks.IsPassive := Or.inl rfl

/-- A new registry is in order. -/
theorem orderly_start (standard : Config) (overrides : List (String × Config))
    (classifier : Option Classifier) (listeners : Nat) (channel : Channel) :
    (start standard overrides classifier listeners channel).Orderly where
  distinct := List.nodup_nil
  registered := List.forall_mem_nil _
  callbacks := List.forall_mem_nil _
  unmade _ _ := rfl
  told := Journal.told_nil listeners

namespace Orderly

variable {m : Management} (h : m.Orderly)

include h

/-- What is registered for a service is found, and nothing else. -/
theorem find?_eq_some {service : String} {i : Nat} :
    m.registry.find? service = some i ↔ (service, i) ∈ m.registry.registered :=
  lookup_eq_some_iff_mem h.distinct

/-- The circuits in use have the callbacks of the registry. -/
theorem usage_callbacks {i : Nat} {u : Usage} (hu : m.usage? i = some u) :
    u.circuit.callbacks = m.registry.callbacks :=
  h.callbacks _ (List.mem_of_getElem? (usage?_eq_some.mp hu).1)

/-- So they only watch. -/
theorem usage_passive {i : Nat} {u : Usage} (hu : m.usage? i = some u) :
    u.circuit.callbacks.IsPassive := by
  rw [h.usage_callbacks hu]
  exact callbacks_passive m.registry

/-- Using a circuit keeps the order. -/
theorem useOn (i : Nat) (x : Use) : (m.useOn i x).1.Orderly := by
  cases hu : m.usage? i with
  | none => rwa [useOn_none hu]
  | some u =>
      obtain ⟨hcircuit, _, _⟩ := usage?_eq_some.mp hu
      have hi : i < m.fleet.circuits.length := (List.getElem?_eq_some_iff.mp hcircuit).1
      have hkept := Usage.kept (h.usage_passive hu) x
      rw [useOn_some hu]
      refine ⟨h.distinct, ?_, ?_, ?_, ?_⟩
      · intro entry hentry
        obtain ⟨c, hc, hname, hconfig⟩ := h.registered entry hentry
        by_cases hsame : i = entry.2
        · have hused : c = u.circuit := by
            rw [← hsame, hcircuit] at hc
            exact (Option.some.inj hc).symm
          subst hused
          refine ⟨_, ?_, hkept.name.trans hname, hkept.config.trans hconfig⟩
          rw [← hsame]
          exact List.getElem?_set_self hi
        · exact ⟨c, (List.getElem?_set_ne hsame).trans hc, hname, hconfig⟩
      · intro c hc
        rcases List.mem_or_eq_of_mem_set hc with hold | rfl
        · exact h.callbacks c hold
        · rw [Usage.use_circuit]
          exact h.usage_callbacks hu
      · intro j hj
        rw [List.length_set] at hj
        exact (Function.update_of_ne (by omega) _ _).trans (h.unmade j hj)
      · apply h.told.append
        have htold := u.told_notes x
        rw [h.usage_callbacks hu] at htold
        exact htold

/-- And the names of all circuits. -/
theorem name?_useOn (i : Nat) (x : Use) (j : Nat) : (m.useOn i x).1.name? j = m.name? j := by
  cases hu : m.usage? i with
  | none => rw [useOn_none hu]
  | some u =>
      rw [name?_eq, name?_eq]
      by_cases hij : i = j
      · subst hij
        rw [usage?_useOn hu, hu]
        exact congrArg some (Usage.kept (h.usage_passive hu) x).name
      · rw [usage?_useOn_other hij]

/-- Letting time pass keeps it. -/
theorem waited (d : Duration) : (m.waited d).Orderly :=
  ⟨h.distinct, h.registered, h.callbacks, h.unmade, h.told⟩

/-- Obtaining the circuit of a service keeps it. -/
theorem obtained (service : String) : (m.obtained service).Orderly := by
  cases hfind : m.registry.find? service with
  | some i =>
      rw [(obtained_of_find hfind).1]
      exact h
  | none =>
      rw [(obtained_of_none hfind).1]
      refine ⟨?_, ?_, ?_, ?_, ?_⟩
      · refine List.nodup_cons.mpr ⟨?_, h.distinct⟩
        intro hmem
        obtain ⟨entry, hentry, hkey⟩ := List.mem_map.mp hmem
        have hentered : (service, entry.2) ∈ m.registry.registered := by
          rw [show service = entry.1 from hkey.symm]
          exact hentry
        rw [h.find?_eq_some.mpr hentered] at hfind
        cases hfind
      · intro entry hentry
        rcases List.mem_cons.mp hentry with rfl | hold
        · exact ⟨_, List.getElem?_concat_length, rfl, rfl⟩
        · obtain ⟨c, hc, hname, hconfig⟩ := h.registered entry hold
          have hi : entry.2 < m.fleet.circuits.length := (List.getElem?_eq_some_iff.mp hc).1
          exact ⟨c, (List.getElem?_append_left hi).trans hc, hname, hconfig⟩
      · intro c hc
        rcases List.mem_append.mp hc with hold | hnew
        · exact h.callbacks c hold
        · rw [List.mem_singleton.mp hnew]
          rfl
      · intro i hi
        simp only [Fleet.add, List.length_append, List.length_singleton] at hi
        exact h.unmade i (Nat.le_of_succ_le hi)
      · exact h.told.append (Journal.told_aside rfl _)

/-- Removing a service keeps it. -/
theorem removed (service : String) : (m.removed service).Orderly where
  distinct := (List.filter_sublist.map Prod.fst).nodup h.distinct
  registered entry hentry := h.registered entry (List.mem_of_mem_filter hentry)
  callbacks := h.callbacks
  unmade := h.unmade
  told := h.told

/-- Configuring a service keeps it: what is registered for it is forgotten. -/
theorem configured (service : String) (config : Config) :
    (m.configured service config).Orderly := by
  have hjournal : (if (m.registry.find? service).isSome then
      m.fleet.note (.reconfigured service) else m.fleet).journal.Told m.registry.listeners := by
    split
    · exact h.told.append (Journal.told_aside rfl _)
    · exact h.told
  have hcircuits : (if (m.registry.find? service).isSome then
      m.fleet.note (.reconfigured service) else m.fleet).circuits = m.fleet.circuits := by
    split <;> rfl
  refine ⟨(List.filter_sublist.map Prod.fst).nodup h.distinct, ?_, ?_, ?_, hjournal⟩
  · intro entry hentry
    obtain ⟨hmem, hother⟩ := List.mem_filter.mp hentry
    obtain ⟨c, hc, hname, hconfig⟩ := h.registered entry hmem
    refine ⟨c, (congrArg (·[entry.2]?) hcircuits).trans hc, hname, hconfig.trans ?_⟩
    exact (configFor_configured_other config (of_decide_eq_true hother)).symm
  · intro c hc
    exact h.callbacks c (hcircuits ▸ hc)
  · intro i hi
    exact h.unmade i (hcircuits ▸ hi)

/-- Drawing random numbers keeps it. -/
theorem drawn (i : Nat) (draws : Draws) : (m.drawn i draws).Orderly where
  distinct := h.distinct
  registered entry hentry := by
    obtain ⟨c, hc, hname, hconfig⟩ := h.registered entry hentry
    refine ⟨if i = entry.2 then { c with breaker := { c.breaker with draws } } else c, ?_, ?_, ?_⟩
    · simp only [Management.drawn, List.getElem?_modify, hc, Option.map_eq_map, Option.map_some]
    · split <;> exact hname
    · split <;> exact hconfig
  callbacks c hc := by
    obtain ⟨j, hj⟩ := List.mem_iff_getElem?.mp hc
    simp only [Management.drawn, List.getElem?_modify, Option.map_eq_map,
      Option.map_eq_some_iff] at hj
    obtain ⟨before, hbefore, rfl⟩ := hj
    have hsame := h.callbacks before (List.mem_of_getElem? hbefore)
    split <;> exact hsame
  unmade j hj := h.unmade j (by simpa [Management.drawn] using hj)
  told := h.told

/-- The first part of every deed keeps the order. -/
theorem prepare (d : Deed) : (m.prepare d).Orderly :=
  prepare_cases h h.waited h.obtained h.removed h.configured h.drawn d

/-- And so does the whole deed. -/
theorem deed (d : Deed) : (m.deed d).Orderly :=
  useAll_induction (fun _ i x hm => hm.useOn i x) (h.prepare d) _

/-- Whatever is done, the order is kept. -/
theorem deeds (ds : List Deed) : (m.deeds ds).Orderly := by
  induction ds generalizing m with
  | nil => exact h
  | cons d rest ih => exact ih (h.deed d)

end Orderly

end Management

end FailFast
