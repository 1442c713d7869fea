import FailFast.Proofs.Management
import FailFast.Proofs.Usage.Calls

/-!
# Deeds in sessions

What is done to a registry in a session is done by deeds.  What the registry does to all its
circuits it does in the order of their names, and a guarded call for a service is made on the
circuit that the service has or gets.

Main results:

- Theorems `Management.Orderly.deed_resetAll` and `Management.Orderly.deed_checkAll`: to reset or to
  check all circuits is to do it to one after the other.
- Theorem `Session.manages_ofRegistry`: a new session has a new registry.
- Theorem `Session.Manages.run` and theorem `Session.Manages.sweep`: steps that are deeds, and the
  turns of sweepers.
- Theorem `Session.Manages.reaches`: which circuit a call for a service is made on.
-/

namespace FailFast

/-! ## All circuits -/

namespace Management

variable {m : Management}

/-- A use comes to an operation: it makes of the circuit what the operation does, takes as long, and
notes the same. -/
structure Performs {α : Type} (m : Management) (i : Nat) (x : Use)
    (operation : Circuit → Instant → Returned α) : Prop where
  unwaiting : ∀ d, x ≠ .wait d
  circuit : ∀ {u : Usage}, m.usage? i = some u →
    (u.use x).circuit = (operation u.circuit u.instant).1
  instant : ∀ {u : Usage}, m.usage? i = some u →
    (u.use x).instant = (operation u.circuit u.instant).2.1
  notes : ∀ {u : Usage}, m.usage? i = some u →
    u.notes x = (operation u.circuit u.instant).2.2.1

/-- A check, a reset and a forced opening come to the operations of their names. -/
theorem performs_operate {α : Type} (m : Management) (i : Nat) {x : Use}
    {operation : Circuit → Instant → Returned α} (reply : α → Reply)
    (hx : ∀ u : Usage, u.step x = u.operate operation reply) (hwait : ∀ d, x ≠ .wait d) :
    m.Performs i x operation where
  unwaiting := hwait
  circuit _ := by rw [Usage.use, hx]; rfl
  instant _ := by rw [Usage.use, hx]; rfl
  notes _ := by rw [Usage.notes, hx]; rfl

namespace Orderly

variable (h : m.Orderly)

include h

/-- A use that comes to an operation is this operation of the fleet: where hooks only watch, no time
passes in either. -/
theorem useOn_fleet {α : Type} {operation : Circuit → Instant → Returned α} {i : Nat} {x : Use}
    (hx : m.Performs i x operation) :
    (m.useOn i x).1.fleet = (m.fleet.perform i operation).1 := by
  cases hu : m.usage? i with
  | none =>
      rw [useOn_none hu]
      simp only [Fleet.perform, usage?_eq_none.mp hu]
  | some u =>
      obtain ⟨hcircuit, hinstant, _⟩ := usage?_eq_some.mp hu
      have hthen : (operation u.circuit u.instant).2.1 = u.instant :=
        (hx.instant hu).symm.trans (Usage.use_instant_eq (h.usage_passive hu) hx.unwaiting)
      rw [useOn_some hu, hx.circuit hu, hx.notes hu]
      simp only [Fleet.perform, hcircuit, hinstant, hthen]

/-- To reset all circuits is what the registry does, in whatever order. -/
theorem useAll_reset (entries : List (String × Nat)) :
    (m.useAll (entries.map (·.2, .reset))).1.fleet =
      entries.foldl (fun f entry => f.change entry.2 Circuit.reset) m.fleet := by
  induction entries generalizing m with
  | nil => rfl
  | cons entry rest ih =>
      have hfirst : (m.useOn entry.2 .reset).1.fleet = m.fleet.change entry.2 Circuit.reset :=
        h.useOn_fleet (m.performs_operate entry.2 (fun _ => .nothing) (fun _ => rfl) (by simp))
      rw [List.foldl_cons, ← hfirst]
      exact ih (h.useOn entry.2 .reset)

/-- The registry resets all circuits. -/
theorem deed_resetAll : (m.deed (.resetAll .byName)).fleet = m.registry.resetAll m.fleet :=
  h.useAll_reset m.registry.sorted

end Orderly

/-- Using a circuit does not change which circuits probe by themselves. -/
theorem Orderly.probesItself_useOn (h : m.Orderly) (i : Nat) (x : Use) :
    (m.useOn i x).1.probesItself = m.probesItself := by
  funext j
  cases hu : m.usage? i with
  | none => rw [useOn_none hu]
  | some u =>
      have hconfig := (Usage.kept (h.usage_passive hu) x).config
      rw [useOn_some hu]
      by_cases hij : i = j
      · obtain ⟨hcircuit, _, _⟩ := usage?_eq_some.mp hu
        have hi : i < m.fleet.circuits.length := (List.getElem?_eq_some_iff.mp hcircuit).1
        subst hij
        simp only [probesItself, List.getElem?_set_self hi, hcircuit, Option.map_some, hconfig]
      · simp only [probesItself, List.getElem?_set_ne hij]

/-- To check all circuits that probe by themselves is what the registry does, in whatever order. -/
theorem Orderly.useAll_check (h : m.Orderly) (entries : List (String × Nat)) :
    (m.useAll ((entries.filter (m.probesItself ·.2)).map (·.2, .check))).1.fleet =
      entries.foldl (fun f entry =>
        match f.circuits[entry.2]? with
        | some c =>
          if c.breaker.config.probesItself then (f.perform entry.2 Circuit.check).1 else f
        | none => f) m.fleet := by
  induction entries generalizing m with
  | nil => rfl
  | cons entry rest ih =>
      rw [List.foldl_cons]
      cases hcircuit : m.fleet.circuits[entry.2]? with
      | none =>
          have hnot : m.probesItself entry.2 = false := by rw [probesItself, hcircuit]; rfl
          rw [List.filter_cons_of_neg (by rw [hnot]; exact Bool.false_ne_true)]
          exact ih h
      | some c =>
          have hself : m.probesItself entry.2 = c.breaker.config.probesItself := by
            rw [probesItself, hcircuit]
            rfl
          dsimp only
          by_cases hprobes : c.breaker.config.probesItself = true
          · have hfirst : (m.useOn entry.2 .check).1.fleet =
                (m.fleet.perform entry.2 Circuit.check).1 :=
              h.useOn_fleet (m.performs_operate entry.2 .state (fun _ => rfl) (by simp))
            rw [if_pos hprobes, List.filter_cons_of_pos (by exact hself.trans hprobes), ← hfirst,
              ← h.probesItself_useOn entry.2 .check]
            exact ih (h.useOn entry.2 .check)
          · rw [if_neg hprobes, List.filter_cons_of_neg (by rw [hself]; exact hprobes)]
            exact ih h

/-- The registry checks all circuits that probe by themselves. -/
theorem Orderly.deed_checkAll (h : m.Orderly) :
    (m.deed (.checkAll .byName)).fleet = m.registry.checkAll m.fleet :=
  h.useAll_check m.registry.sorted

end Management

/-! ## Fleets but for what was noted -/

/-- Two fleets that differ in what was noted at most. -/
structure Fleet.Like (f g : Fleet) : Prop where
  instant : f.instant = g.instant
  circuits : f.circuits = g.circuits
  channel : f.channel = g.channel

namespace Fleet.Like

variable {f g : Fleet}

/-- One fleet is like itself. -/
theorem refl (f : Fleet) : f.Like f := ⟨rfl, rfl, rfl⟩

/-- A fleet with another journal. -/
theorem eq_with_journal (h : f.Like g) : f = { g with journal := f.journal } := by
  obtain ⟨instant, circuits, channel, journal⟩ := f
  obtain ⟨hinstant, hcircuits, hchannel⟩ := h
  simp only at hinstant hcircuits hchannel
  subst hinstant hcircuits hchannel
  rfl

/-- Operating on a circuit does not depend on what was noted. -/
theorem perform {α : Type} (h : f.Like g) (i : Nat)
    (operation : Circuit → Instant → Returned α) :
    (f.perform i operation).1.Like (g.perform i operation).1 := by
  rw [h.eq_with_journal]
  simp only [Fleet.perform]
  split <;> exact ⟨rfl, rfl, rfl⟩

/-- Nor do operations one after the other. -/
theorem foldl {β : Type} {operation : Fleet → β → Fleet}
    (hoperation : ∀ {f g : Fleet} (b : β), f.Like g → (operation f b).Like (operation g b))
    (h : f.Like g) (bs : List β) : (bs.foldl operation f).Like (bs.foldl operation g) := by
  induction bs generalizing f g with
  | nil => exact h
  | cons b rest ih => exact ih (hoperation b h)

/-- Nor does resetting all circuits. -/
theorem resetAll (h : f.Like g) (r : Registry) : (r.resetAll f).Like (r.resetAll g) :=
  foldl (fun entry hlike => hlike.perform entry.2 Circuit.reset) h r.sorted

/-- Nor does checking them. -/
theorem checkAll (h : f.Like g) (r : Registry) : (r.checkAll f).Like (r.checkAll g) := by
  refine foldl ?_ h r.sorted
  intro f g entry hlike
  rw [hlike.circuits]
  split
  · split
    · exact hlike.perform entry.2 Circuit.check
    · exact hlike
  · exact hlike

/-- Nor does the circuit that a service has or gets. -/
theorem obtain (h : f.Like g) (r : Registry) (service : String) :
    (r.obtain f service).1 = (r.obtain g service).1 ∧
      (r.obtain f service).2.1.Like (r.obtain g service).2.1 ∧
      (r.obtain f service).2.2 = (r.obtain g service).2.2 := by
  rw [h.eq_with_journal]
  simp only [Registry.obtain]
  split <;> exact ⟨rfl, ⟨rfl, rfl, rfl⟩, rfl⟩

/-- Nor does a new configuration. -/
theorem configure (h : f.Like g) (r : Registry) (service : String) (config : Config) :
    (r.configure f service config).1 = (r.configure g service config).1 ∧
      (r.configure f service config).2.Like (r.configure g service config).2 := by
  rw [h.eq_with_journal]
  refine ⟨rfl, ?_⟩
  simp only [Registry.configure]
  split <;> exact ⟨rfl, rfl, rfl⟩

end Fleet.Like

/-! ## Sessions -/

/-- What a step of a session does to the registry, where that is a single deed. -/
inductive Step.Does {α : Type} : Step α → Deed → Prop where
  | advance (d : Duration) : Does (.advance d) (.wait d)
  | create (service : String) : Does (.create service) (.obtain service)
  | forceOpen (service : String) : Does (.forceOpen (some service)) (.forceOpen service)
  | reset (service : String) : Does (.reset (some service)) (.reset service)
  | resetAll : Does .resetAll (.resetAll .byName)
  | checkTransitions : Does .checkTransitions (.checkAll .byName)
  | remove (service : String) : Does (.remove service) (.remove service)
  | configure (service : String) {edits : List ConfigEdit} {config : Config}
      (h : Config.standard.build edits = .ok config) :
      Does (.configure service edits) (.configure service config)

namespace Session

/-- A session has a registry and its circuits as they are in use.  The journal of a session is
emptied by every report, and its permits have names. -/
structure Manages (s : Session) (m : Management) : Prop where
  registry : s.registry = some m.registry
  unshut : s.isShut = false
  fleet : s.fleet.Like m.fleet

/-- A new session has a new registry. -/
theorem manages_ofRegistry {standard : Config} {overrides : List (String × Config)}
    {classifier : Option Classifier} {listeners capacity : Nat} {s : Session}
    (h : ofRegistry (.start standard overrides.reverse classifier listeners) capacity = .ok s) :
    ∃ channel, Channel.ofCapacity capacity = .ok channel ∧
      s.Manages (.start standard overrides classifier listeners channel) := by
  unfold ofRegistry at h
  cases hchannel : Channel.ofCapacity capacity with
  | error _ =>
      rw [hchannel] at h
      cases h
  | ok channel =>
      rw [hchannel] at h
      cases h
      exact ⟨channel, rfl, rfl, rfl, .refl _⟩

namespace Manages

variable {α : Type} {s : Session} {m : Management}

/-- Its steps see the registry. -/
theorem visible_eq (h : s.Manages m) : s.visible = some m.registry := by
  rw [Session.visible, h.unshut]
  exact h.registry

/-- The callbacks of its circuits only watch, which takes no time. -/
theorem isPrompt (h : s.Manages m) (horder : m.Orderly) : s.IsPrompt := by
  intro c hc
  rw [h.fleet.circuits] at hc
  rw [horder.callbacks c hc]
  exact (Management.callbacks_passive m.registry).isPrompt

/-- A session with another fleet. -/
theorem with_fleet (h : s.Manages m) {n : Management} (hregistry : n.registry = m.registry)
    {f : Fleet} (hfleet : f.Like n.fleet) : Manages { s with fleet := f } n :=
  ⟨h.registry.trans (congrArg some hregistry.symm), h.unshut, hfleet⟩

/-- Operating on a circuit is using it. -/
theorem perform (h : s.Manages m) (horder : m.Orderly) {i : Nat} {x : Use}
    {operation : Circuit → Instant → Returned α} (hx : m.Performs i x operation) :
    Manages { s with fleet := (s.fleet.perform i operation).1 } (m.useOn i x).1 := by
  apply h.with_fleet (m.useOn_registry i x)
  rw [horder.useOn_fleet hx]
  exact h.fleet.perform i operation

/-- Finding the circuit of a service is obtaining it. -/
theorem targetIn (h : s.Manages m) (scope : Scope) (service : String) :
    ∃ t, s.targetIn (some m.registry) scope (some service) = some (t, m.target service) ∧
      t.Manages (m.obtained service) := by
  obtain ⟨hregistry, hfleet, hnumber⟩ := h.fleet.obtain m.registry service
  refine ⟨{ s with
    registry := some (m.registry.obtain s.fleet service).1
    fleet := (m.registry.obtain s.fleet service).2.1 }, ?_, ?_⟩
  · simp only [Session.targetIn, hnumber]
    rfl
  · exact ⟨congrArg some hregistry, h.unshut, hfleet⟩

/-- A step finds it so. -/
theorem target (h : s.Manages m) (scope : Scope) (service : String) :
    ∃ t, s.target scope (some service) = some (t, m.target service) ∧
      t.Manages (m.obtained service) := by
  rw [Session.target, h.visible_eq]
  exact h.targetIn scope service

/-- So does a call. -/
theorem callee (h : s.Manages m) (scope : Scope) (service : String) :
    ∃ t, s.callee scope (some service) = some (t, m.target service) ∧
      t.Manages (m.obtained service) := by
  rw [Session.callee, h.registry]
  exact h.targetIn scope service

/-- A call for a service is made on the circuit that the service has or gets. -/
theorem reaches (h : s.Manages m) (scope : Scope) {service : String} {u : Usage}
    (hu : (m.obtained service).usage? (m.target service) = some u) :
    s.Reaches scope (some service) u := by
  obtain ⟨t, hcallee, ht⟩ := h.callee scope service
  obtain ⟨hcircuit, hinstant, _⟩ := Management.usage?_eq_some.mp hu
  refine ⟨t, _, hcallee, ?_, ht.fleet.instant.trans hinstant⟩
  rw [circuit?, ht.fleet.circuits]
  exact hcircuit

/-! ### Steps that are deeds -/

/-- A step that is a deed does it. -/
theorem run (h : s.Manages m) (horder : m.Orderly) {step : Step α} {d : Deed} (hd : step.Does d)
    (one : StepRunner α) (home scope : Scope) :
    (s.run one home scope step).1.Manages (m.deed d) := by
  cases hd with
  | advance d =>
      have hwaited : (s.fleet.wait d).Like (m.fleet.wait d) :=
        ⟨congrArg (· + d.nanos) h.fleet.instant, h.fleet.circuits, h.fleet.channel⟩
      exact ⟨h.registry, h.unshut, hwaited⟩
  | create service =>
      obtain ⟨t, htarget, ht⟩ := h.target scope service
      simp only [Session.run, htarget]
      exact ht
  | forceOpen service =>
      obtain ⟨t, htarget, ht⟩ := h.target scope service
      have hforced : (t.change (m.target service) Circuit.forceOpen).Manages
          ((m.obtained service).useOn (m.target service) .forceOpen).1 :=
        ht.perform (horder.obtained service)
          (Management.performs_operate _ _ (fun _ => .nothing) (fun _ => rfl) (by simp))
      simp only [Session.run, Session.operate, htarget]
      simp only [Management.deed, Management.step, Management.prepare, Management.touches,
        Management.find?_obtained]
      exact hforced
  | reset service =>
      simp only [Session.run, Session.resetService, h.visible_eq]
      simp only [Management.deed, Management.step, Management.prepare, Management.touches]
      cases m.registry.find? service with
      | none => exact h
      | some i =>
          have hreset : (s.change i Circuit.reset).Manages (m.useOn i .reset).1 :=
            h.perform horder
              (m.performs_operate i (fun _ => .nothing) (fun _ => rfl) (by simp))
          exact hreset
  | resetAll =>
      simp only [Session.run, Session.sweepAll, h.visible_eq]
      apply h.with_fleet (m.deed_registry _)
      rw [horder.deed_resetAll]
      exact h.fleet.resetAll m.registry
  | checkTransitions =>
      simp only [Session.run, Session.sweepAll, h.visible_eq]
      apply h.with_fleet (m.deed_registry _)
      rw [horder.deed_checkAll]
      exact h.fleet.checkAll m.registry
  | remove service =>
      have hremoved : Manages { s with registry := some (m.registry.remove service).1 }
          (m.deed (.remove service)) :=
        ⟨rfl, h.unshut, h.fleet⟩
      simp only [Session.run, Session.removeService, h.visible_eq]
      split <;> exact hremoved
  | configure service hbuild =>
      obtain ⟨hregistry, hfleet⟩ := h.fleet.configure m.registry service _
      simp only [Session.run, Session.configureService, h.visible_eq, hbuild]
      exact ⟨congrArg some hregistry, h.unshut, hfleet⟩

/-- The turn of a sweeper checks all circuits. -/
theorem sweep (h : s.Manages m) (horder : m.Orderly) (k : Nat) :
    (s.sweep k).Manages (m.deed (.checkAll .byName)) := by
  simp only [Session.sweep, h.registry]
  refine ⟨congrArg some (m.deed_registry (.checkAll .byName)).symm, h.unshut, ?_⟩
  rw [horder.deed_checkAll]
  exact h.fleet.checkAll m.registry

/-! ### Calls -/

/-- A call that asks its circuit for a permit uses it so. -/
theorem acquire (h : s.Manages m) (horder : m.Orderly) (i : Nat) :
    (s.acquire i).1.Manages (m.useOn i .acquire).1 := by
  have hasked : (s.attempted i).Manages (m.useOn i .acquire).1 := by
    apply h.perform horder
    refine ⟨by simp, fun _ => (use_acquire_circuit _).1, fun _ => (use_acquire_circuit _).2, ?_⟩
    intro u _
    simp only [Usage.notes, Usage.step]
    split <;> rfl
  have hsame : (s.acquire i).1 = s.attempted i := by
    unfold Session.acquire attempted
    split <;> simp only [*]
  rw [hsame]
  exact hasked

/-- A use that uses up a permit is the operation that does. -/
theorem spend (h : s.Manages m) (horder : m.Orderly) {i j : Nat} {p : Permit}
    (hp : (m.permits i)[j]? = some p) {x : Use}
    (operation : Permit → Circuit → Instant → Returned Unit)
    (hx : ∀ u : Usage, u.step x = u.spend j fun p => operation p u.circuit u.instant)
    (hwait : ∀ d, x ≠ .wait d) :
    (s.change i (operation p)).Manages (m.useOn i x).1 := by
  have hspent : ∀ {u : Usage}, m.usage? i = some u → u.step x =
      (⟨(operation p u.circuit u.instant).1, (operation p u.circuit u.instant).2.1,
        u.permits.eraseIdx j⟩, (operation p u.circuit u.instant).2.2.1, .nothing) := by
    intro u hu
    obtain ⟨_, _, hpermits⟩ := Management.usage?_eq_some.mp hu
    rw [hx, Usage.spend, ← hpermits, hp]
  apply h.perform horder
  refine ⟨hwait, fun hu => ?_, fun hu => ?_, fun hu => ?_⟩
  · rw [Usage.use, hspent hu]
  · rw [Usage.use, hspent hu]
  · rw [Usage.notes, hspent hu]

/-- A permit that is held is given up so. -/
theorem giveUp (h : s.Manages m) (horder : m.Orderly) {held : HeldPermit} {j : Nat}
    (hheld : (m.permits held.circuit)[j]? = some held.permit) (how : Settlement) :
    (s.giveUp held how).Manages (m.useOn held.circuit
      (match how with
        | .complete how => .complete j how
        | .release => .release j)).1 := by
  cases how with
  | complete how =>
      exact h.spend horder hheld (fun p c instant => c.complete instant p how) (fun _ => rfl)
        (by simp)
  | release =>
      exact h.spend horder hheld (fun p c instant => c.release instant p) (fun _ => rfl) (by simp)

/-- So is the permit of a call whose operation ended. -/
theorem finish (h : s.Manages m) (horder : m.Orderly) {i j : Nat} {p : Permit}
    (hp : (m.permits i)[j]? = some p) (result : Except Fault α) :
    (s.finish i p result).1.Manages (m.useOn i
      (match result with
        | .ok _ => .complete j .succeeded
        | .error fault => .fault j fault)).1 := by
  cases result with
  | ok value =>
      exact h.spend horder hp (fun p c instant => c.complete instant p .succeeded) (fun _ => rfl)
        (by simp)
  | error fault =>
      exact h.spend horder hp (fun p c instant => c.fault instant p fault) (fun _ => rfl) (by simp)

/-- And that of a call whose timeout has passed. -/
theorem timeOut (h : s.Manages m) (horder : m.Orderly) {i j : Nat} {p : Permit}
    (hp : (m.permits i)[j]? = some p) (timeout : Duration) :
    (s.change i fun c instant => c.timeOut instant p timeout).Manages
      (m.useOn i (.timeOut j timeout)).1 :=
  h.spend horder hp (fun p c instant => c.timeOut instant p timeout) (fun _ => rfl) (by simp)

end Manages

end Session

end FailFast
