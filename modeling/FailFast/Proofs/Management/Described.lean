import FailFast.Proofs.Management.Incarnations
import FailFast.Proofs.Settings
import FailFast.Proofs.Tables

/-!
# Registries made from settings

Settings make a registry if the defaults are accepted and so is each listed service with them.  The
services are listed in no particular order; whichever they are read in, the registry is made or not,
and what it is asked for it answers alike.  Of several faults the defaults' own is named first, and
else that of some service.

A registry that was just made has no circuits.  It makes one for a service on first use, on the
settings of the service if it is listed and on the defaults if it is not, and it does so again after
the service was removed.

Main results:

- Theorem `Settings.yields`: what becomes of settings, in each case.
- Theorem `Management.configFor_deeds_of_ungiven`: a service keeps the configuration that the
  registry was made with, unless it is given another.
- Theorem `Settings.registry_as_described`: settings make exactly the registry that they describe.
-/

namespace FailFast

/-- The configuration of accepted settings is the one that they describe. -/
theorem BreakerSettings.config_of_isOk {s : BreakerSettings} (h : s.config.isOk = true) :
    s.config = .ok s.describes := by
  cases hconfig : s.config with
  | ok c => rw [(Config.validated_eq_ok.mp hconfig).2]
  | error e => simp [hconfig, Except.isOk, Except.toBool] at h

/-- Settings that are not accepted have a fault. -/
theorem BreakerSettings.config_of_not_isOk {s : BreakerSettings} (h : s.config.isOk ≠ true) :
    ∃ e, s.config = .error e := by
  cases hconfig : s.config with
  | ok c => simp [hconfig, Except.isOk, Except.toBool] at h
  | error e => exact ⟨e, rfl⟩

namespace Settings

/-! ## The settings of a service -/

/-- The settings that hold for a service, listed or not. -/
def holdingFor (s : Settings) (service : String) : BreakerSettings :=
  (s.effective? service).getD s.defaults

/-- Each entry is the service's own if it is listed and sets it, and the default otherwise. -/
theorem get_holdingFor (s : Settings) (service : String) (k : Key) :
    (s.holdingFor service).get k =
      ((s.services.lookup service).bind (·.get k)).or (s.defaults.get k) := by
  unfold holdingFor effective?
  cases s.services.lookup service with
  | none => rfl
  | some own => exact own.get_withDefaults s.defaults k

/-- The settings that hold for a service fit when all settings do. -/
theorem Fits.holdingFor {s : Settings} (h : s.Fits) (service : String) :
    (s.holdingFor service).Fits := by
  unfold Settings.holdingFor effective?
  cases hown : s.services.lookup service with
  | none => exact h.defaults
  | some own => exact (h.services _ (mem_of_lookup hown)).withDefaults h.defaults

/-! ## What becomes of settings -/

/-- The configurations that services describe. -/
def described (s : Settings) : List (String × Config) :=
  s.services.map fun entry => (entry.1, (entry.2.withDefaults s.defaults).describes)

/-- Reading one more service. -/
theorem serviceConfigs_cons (defaults : BreakerSettings) (entry : String × ServiceSettings)
    (rest : List (String × ServiceSettings)) :
    serviceConfigs ⟨defaults, entry :: rest⟩ = do
      let config ← (entry.2.withDefaults defaults).config
      let configs ← serviceConfigs ⟨defaults, rest⟩
      return (entry.1, config) :: configs := by
  rw [serviceConfigs, List.mapM_cons, bind_assoc]
  rfl

/-- Services are all accepted, or one of them has the fault that is named. -/
theorem serviceConfigs_cases (defaults : BreakerSettings)
    (order : List (String × ServiceSettings)) :
    ((∀ entry ∈ order, (entry.2.withDefaults defaults).config.isOk = true) ∧
      serviceConfigs ⟨defaults, order⟩ = .ok (described ⟨defaults, order⟩)) ∨
    ∃ entry ∈ order, ∃ e, (entry.2.withDefaults defaults).config = .error e ∧
      serviceConfigs ⟨defaults, order⟩ = .error e := by
  induction order with
  | nil => exact Or.inl ⟨List.forall_mem_nil _, rfl⟩
  | cons entry rest ih =>
      rw [serviceConfigs_cons]
      -- A fault of this service is named before any later one is looked for.
      by_cases hentry : (entry.2.withDefaults defaults).config.isOk = true
      · rw [BreakerSettings.config_of_isOk hentry]
        rcases ih with ⟨haccepted, hconfigs⟩ | ⟨other, hother, e, hfault, hconfigs⟩
        · left
          rw [hconfigs]
          exact ⟨List.forall_mem_cons.mpr ⟨hentry, haccepted⟩, rfl⟩
        · right
          rw [hconfigs]
          exact ⟨other, List.mem_cons_of_mem _ hother, e, hfault, rfl⟩
      · right
        obtain ⟨e, hfault⟩ := BreakerSettings.config_of_not_isOk hentry
        rw [hfault]
        exact ⟨entry, List.mem_cons_self, e, hfault, rfl⟩

/-- What becomes of settings. -/
inductive Yields (s : Settings) : Except ConfigError Registry → Prop where
  | registry (hdefaults : s.defaults.config.isOk = true)
      (hservices : ∀ entry ∈ s.services, (entry.2.withDefaults s.defaults).config.isOk = true) :
      Yields s (.ok (.start s.defaults.describes s.described none 0))
  | faultOfDefaults {e : ConfigError} (hfault : s.defaults.config = .error e) :
      Yields s (.error e)
  | faultOfService {e : ConfigError} (hdefaults : s.defaults.config.isOk = true)
      {entry : String × ServiceSettings} (hentry : entry ∈ s.services)
      (hfault : (entry.2.withDefaults s.defaults).config = .error e) : Yields s (.error e)

/-- So it is of all settings. -/
theorem yields (s : Settings) : s.Yields (Registry.ofSettings s) := by
  unfold Registry.ofSettings
  by_cases hdefaults : s.defaults.config.isOk = true
  · rw [BreakerSettings.config_of_isOk hdefaults]
    rcases serviceConfigs_cases s.defaults s.services with
      ⟨hservices, hconfigs⟩ | ⟨entry, hentry, e, hfault, hconfigs⟩
    · rw [show s.serviceConfigs = .ok s.described from hconfigs]
      exact Yields.registry hdefaults hservices
    · rw [show s.serviceConfigs = .error e from hconfigs]
      exact .faultOfService hdefaults hentry hfault
  · obtain ⟨e, hfault⟩ := BreakerSettings.config_of_not_isOk hdefaults
    rw [hfault]
    exact .faultOfDefaults hfault

/-- The registry that was made has the settings that hold for each service. -/
theorem configFor_start (s : Settings) (service : String) :
    (Registry.start s.defaults.describes s.described none 0).configFor service =
      (s.holdingFor service).describes := by
  have hlookup : s.described.lookup service =
      (s.services.lookup service).map fun own => (own.withDefaults s.defaults).describes := by
    rw [described, ← lookup_map_value]
  simp only [Registry.configFor, Registry.start, hlookup, holdingFor, effective?]
  cases s.services.lookup service <;> rfl

end Settings

namespace Management

/-! ## The registry in use -/

/-- A registry before anything was done with it. -/
def fresh (r : Registry) (channel : Channel) : Management where
  registry := r
  fleet := .start channel
  permits _ := []

/-- It begins as any registry does. -/
theorem fresh_start (standard : Config) (overrides : List (String × Config))
    (classifier : Option Classifier) (listeners : Nat) (channel : Channel) :
    fresh (.start standard overrides classifier listeners) channel =
      start standard overrides.reverse classifier listeners channel := by
  rw [fresh, start, List.reverse_reverse]

/-- A service that is given no other configuration keeps the one that it began with. -/
theorem configFor_deeds_of_ungiven (standard : Config) (overrides : List (String × Config))
    (classifier : Option Classifier) (listeners : Nat) (channel : Channel) {ds : List Deed}
    {service : String} (hungiven : ∀ d ∈ ds, ∀ config, d ≠ .configure service config) :
    ((fresh (.start standard overrides classifier listeners) channel).deeds ds).registry.configFor
      service = (Registry.start standard overrides classifier listeners).configFor service := by
  have hnone : (ds.filterMap Deed.given?).filter (·.1 = service) = [] := by
    rw [List.filter_eq_nil_iff]
    intro given hgiven hservice
    obtain ⟨d, hd, hgives⟩ := List.mem_filterMap.mp hgiven
    cases d with
    | configure other config =>
        cases hgives
        exact hungiven _ hd config (congrArg (Deed.configure · config) (of_decide_eq_true hservice))
    | _ => cases hgives
  rw [fresh_start, configFor_deeds, Config.latest, List.filter_append, hnone, List.append_nil,
    ← lookup_reverse, List.reverse_reverse]
  rfl

/-- Whoever gets hold of the circuit of a service gets one of its name and its configuration, and an
unused one if there was none. -/
theorem Orderly.obtained_circuit {m : Management} (h : m.Orderly) (service : String) :
    ∃ u, (m.obtained service).usage? (m.target service) = some u ∧
      (m.registry.find? service = none → u.Untouched) ∧
      u.circuit.breaker.name = service ∧
      u.circuit.breaker.config = m.registry.configFor service := by
  have hone := h.incarnation service
  cases hfind : m.registry.find? service with
  | none =>
      obtain ⟨u, hu, huntouched, hname, hconfig⟩ :=
        (hone.afresh hfind).2 (.obtain service) (decide_eq_true rfl)
      exact ⟨u, hu, fun _ => huntouched, hname, hconfig⟩
  | some i =>
      obtain ⟨_, u, hu, hname, hconfig⟩ := hone.registered i (h.find?_eq_some.mp hfind)
      rw [(obtained_of_find hfind).1, (obtained_of_find hfind).2]
      exact ⟨u, hu, fun hnone => absurd hnone (Option.some_ne_none i), hname, hconfig⟩

end Management

/-! ## The registry of settings -/

namespace Settings

section Read

variable {s : Settings} {order : List (String × ServiceSettings)}
  (hdistinct : (s.services.map Prod.fst).Nodup) (horder : order.Perm s.services)

include hdistinct horder

/-- The settings that are read for an entry are those of the listed service. -/
theorem effective?_of_read {entry : String × ServiceSettings} (hentry : entry ∈ order) :
    s.effective? entry.1 = some (entry.2.withDefaults s.defaults) := by
  rw [effective?, (lookup_eq_some_iff_mem hdistinct).mpr (horder.mem_iff.mp hentry)]
  rfl

/-- The order does not matter to the settings that hold for a service. -/
theorem holdingFor_of_read (service : String) :
    holdingFor ⟨s.defaults, order⟩ service = s.holdingFor service := by
  simp only [holdingFor, effective?, lookup_perm horder hdistinct]

/-- Every entry that is read is accepted when every listed service is. -/
theorem accepted_iff :
    (∀ entry ∈ order, (entry.2.withDefaults s.defaults).config.isOk = true) ↔
      ∀ service settings, s.effective? service = some settings →
        settings.config.isOk = true := by
  constructor
  · intro haccepted service settings hsettings
    obtain ⟨own, hown, rfl⟩ := Option.map_eq_some_iff.mp hsettings
    exact haccepted _ (horder.mem_iff.mpr (mem_of_lookup hown))
  · intro haccepted entry hentry
    exact haccepted _ _ (effective?_of_read hdistinct horder hentry)

/-- A registry is made when the defaults and all listed services are accepted. -/
theorem made_iff : (Registry.ofSettings ⟨s.defaults, order⟩).isOk = true ↔
    s.defaults.config.isOk = true ∧
      ∀ service settings, s.effective? service = some settings → settings.config.isOk = true := by
  rw [← accepted_iff hdistinct horder]
  have hyields := yields ⟨s.defaults, order⟩
  generalize Registry.ofSettings ⟨s.defaults, order⟩ = made at hyields
  cases hyields with
  | registry hdefaults hservices => exact iff_of_true rfl ⟨hdefaults, hservices⟩
  | faultOfDefaults hfault =>
      refine iff_of_false Bool.false_ne_true fun haccepted => ?_
      rw [hfault] at haccepted
      exact Bool.false_ne_true haccepted.1
  | faultOfService hdefaults hentry hfault =>
      refine iff_of_false Bool.false_ne_true fun haccepted => ?_
      have hservice := haccepted.2 _ hentry
      rw [hfault] at hservice
      exact Bool.false_ne_true hservice

/-- The fault that is named is the defaults' own, or else that of a listed service. -/
theorem named_fault {e : ConfigError} (he : Registry.ofSettings ⟨s.defaults, order⟩ = .error e) :
    s.defaults.config = .error e ∨
      s.defaults.config.isOk = true ∧
        ∃ service settings, s.effective? service = some settings ∧ settings.config = .error e := by
  have hyields := yields ⟨s.defaults, order⟩
  rw [he] at hyields
  cases hyields with
  | faultOfDefaults hfault => exact Or.inl hfault
  | faultOfService hdefaults hentry hfault =>
      exact Or.inr ⟨hdefaults, _, _, effective?_of_read hdistinct horder hentry, hfault⟩

/-- The registry that is made is the one that begins with the settings that hold for each service,
and these are accepted. -/
theorem made_registry {r : Registry} (hr : Registry.ofSettings ⟨s.defaults, order⟩ = .ok r) :
    ∃ overrides, r = .start s.defaults.describes overrides none 0 ∧
      ∀ service, r.configFor service = (s.holdingFor service).describes ∧
        (s.holdingFor service).config = .ok (s.holdingFor service).describes := by
  have hyields := yields ⟨s.defaults, order⟩
  rw [hr] at hyields
  cases hyields with
  | registry hdefaults hservices =>
      refine ⟨_, rfl, ?_⟩
      intro service
      rw [← holdingFor_of_read hdistinct horder]
      refine ⟨configFor_start ⟨s.defaults, order⟩ service, ?_⟩
      rw [holdingFor_of_read hdistinct horder]
      apply BreakerSettings.config_of_isOk
      unfold holdingFor
      cases hsettings : s.effective? service with
      | none => exact hdefaults
      | some settings =>
          exact (accepted_iff hdistinct horder).mp hservices service settings hsettings

end Read

/-- Settings make a registry, in whatever order the services are read, if and only if the defaults
and the settings of every listed service are accepted.  The fault that is named otherwise is the
defaults' own, or else that of a listed service.  The registry has no circuits yet.  In all that is
done with it, as long as a service is given no other configuration, whoever gets hold of its circuit
gets one on the configuration of the settings that hold for it: each entry is the service's own if
it sets one and the default otherwise, and durations have the milliseconds that were given. -/
theorem registry_as_described (s : Settings) (hdistinct : (s.services.map Prod.fst).Nodup)
    (hfits : s.Fits) {order : List (String × ServiceSettings)} (horder : order.Perm s.services) :
    ((Registry.ofSettings ⟨s.defaults, order⟩).isOk = true ↔
      s.defaults.config.isOk = true ∧
        ∀ service settings, s.effective? service = some settings →
          settings.config.isOk = true) ∧
    (∀ e, Registry.ofSettings ⟨s.defaults, order⟩ = .error e →
      s.defaults.config = .error e ∨
        s.defaults.config.isOk = true ∧
          ∃ service settings, s.effective? service = some settings ∧
            settings.config = .error e) ∧
    ∀ r, Registry.ofSettings ⟨s.defaults, order⟩ = .ok r →
      r.registered = [] ∧
        ∀ service channel ds, (∀ d ∈ ds, ∀ config, d ≠ .configure service config) →
          let m := (Management.fresh r channel).deeds ds
          ∃ u, (m.obtained service).usage? (m.target service) = some u ∧
            (m.registry.find? service = none → u.Untouched) ∧
            u.circuit.breaker.name = service ∧
            (s.holdingFor service).config = .ok u.circuit.breaker.config ∧
            ∀ k, u.circuit.breaker.config.get k =
              ((s.services.lookup service).bind (·.get k)).or (s.defaults.get k) := by
  refine ⟨made_iff hdistinct horder, fun e he => named_fault hdistinct horder he, ?_⟩
  intro r hr
  obtain ⟨overrides, rfl, hservices⟩ := made_registry hdistinct horder hr
  refine ⟨rfl, ?_⟩
  intro service channel ds hungiven m
  have horderly : m.Orderly := by
    simp only [m, Management.fresh_start]
    exact (Management.orderly_start _ _ _ _ _).deeds ds
  obtain ⟨u, hu, huntouched, hname, hconfig⟩ := horderly.obtained_circuit service
  obtain ⟨hdescribes, haccepted⟩ := hservices service
  rw [Management.configFor_deeds_of_ungiven _ _ _ _ _ hungiven, hdescribes] at hconfig
  refine ⟨u, hu, huntouched, hname, ?_, ?_⟩
  · rw [hconfig]
    exact haccepted
  · intro k
    rw [hconfig, BreakerSettings.get_describes (hfits.holdingFor service), get_holdingFor]

/-- Settings in which two services differ from the defaults, each in other entries. -/
def differing : Settings where
  defaults := { BreakerSettings.standard with trialCalls := 7, callTimeout := some 300 }
  services :=
    [("mail", { ServiceSettings.unset with windowKind := some .timeBased, openWait := some 5 }),
      ("pay", { ServiceSettings.unset with trialCalls := some 1, callTimeout := some 20 })]

theorem differing_fits : differing.Fits where
  defaults k v hv := by
    cases k with
    | openWait => cases hv; exact (by decide : BreakerSettings.standard.openWait < wordCount)
    | slowCall => cases hv; exact (by decide : BreakerSettings.standard.slowCall < wordCount)
    | trialWait => cases hv
    | callTimeout => cases hv; exact (by decide : 300 < wordCount)
    | _ => trivial
  services := by
    refine List.forall_mem_cons.mpr
      ⟨fun k v hv => ?_, List.forall_mem_singleton.mpr fun k v hv => ?_⟩
    · cases k with
      | openWait => cases hv; exact (by decide : 5 < wordCount)
      | slowCall => cases hv
      | trialWait => cases hv
      | callTimeout => cases hv
      | _ => trivial
    · cases k with
      | openWait => cases hv
      | slowCall => cases hv
      | trialWait => cases hv
      | callTimeout => cases hv; exact (by decide : 20 < wordCount)
      | _ => trivial

/-- Read the other way round they make a registry.  The circuit of a service that was forced open
and removed is made again with what the service sets and, in every other entry, with the default. -/
theorem differing_as_described :
    ∃ r, Registry.ofSettings ⟨differing.defaults, differing.services.reverse⟩ = .ok r ∧
      r.registered = [] ∧
      let m := (Management.fresh r ⟨4, []⟩).deeds [.forceOpen "pay", .remove "pay"]
      ∃ u, (m.obtained "pay").usage? (m.target "pay") = some u ∧
        u.circuit.breaker.config.get .trialCalls = some (1 : Nat) ∧
        u.circuit.breaker.config.get .callTimeout = some (20 : Nat) ∧
        u.circuit.breaker.config.get .openWait = some (60000 : Nat) ∧
        u.circuit.breaker.config.get .windowKind = some WindowKind.countBased := by
  obtain ⟨_, _, hregistry⟩ := registry_as_described differing (by decide) differing_fits
    differing.services.reverse_perm
  have hmade :
      (Registry.ofSettings ⟨differing.defaults, differing.services.reverse⟩).isOk = true := by
    decide +kernel
  cases h : Registry.ofSettings ⟨differing.defaults, differing.services.reverse⟩ with
  | error e =>
      rw [h] at hmade
      exact absurd hmade Bool.false_ne_true
  | ok r =>
      obtain ⟨hunused, hcircuits⟩ := hregistry r h
      have hungiven : ∀ d ∈ [Deed.forceOpen "pay", Deed.remove "pay"], ∀ config,
          d ≠ .configure "pay" config := by
        simp
      obtain ⟨u, hu, _, _, _, hentries⟩ := hcircuits "pay" ⟨4, []⟩ _ hungiven
      refine ⟨r, rfl, hunused, u, hu, ?_, ?_, ?_, ?_⟩
      all_goals
        rw [hentries]
        rfl

end Settings

end FailFast
