import FailFast.Proofs.Management.Changes

/-!
# Uses in two parts

What a use makes of a circuit, it makes while it holds the lock of the circuit.  Only when it has
let go does the caller announce the transition that it made: it tells the listeners of the registry
one after the other, and the channel last.  After that it gets the answer to its attempt.  All that
is left to do then are errands.

Main results:

- Theorem `Usage.use_in_parts` and theorem `Usage.locked_change`: what is done under the lock and the
  answer are together the use, and the transition to be announced is its change of state.
- Theorem `Management.told_carryOut` and theorem `Management.stateOf_carryOut`: an errand tells one of
  those who are told, and changes no state.
- Theorem `Management.Uniform.resembles_useOn`: when all errands are done, the use as a whole is.
-/

namespace FailFast

/-! ## Uses in two parts -/

/-- Whom callers tell of transitions. -/
inductive Audience where
  | listener (j : Nat)
  | channel
deriving DecidableEq

/-- All of them, in the order in which they are told. -/
def Registry.audience (r : Registry) : List Audience :=
  (List.range r.listeners).map .listener ++ [.channel]

theorem Registry.channel_mem_audience (r : Registry) : .channel ∈ r.audience :=
  List.mem_append_right _ (List.mem_singleton.mpr rfl)

theorem Registry.listener_mem_audience {r : Registry} {j : Nat} (hj : j < r.listeners) :
    .listener j ∈ r.audience :=
  List.mem_append_left _ (List.mem_map_of_mem (List.mem_range.mpr hj))

/-- No one is told twice. -/
theorem Registry.audience_nodup (r : Registry) : r.audience.Nodup := by
  refine List.nodup_append.mpr ⟨?_, List.nodup_singleton _, ?_⟩
  · exact List.nodup_range.map fun _ _ => Audience.listener.inj
  · intro who hwho other hother
    obtain ⟨j, _, rfl⟩ := List.mem_map.mp hwho
    rw [List.mem_singleton.mp hother]
    exact Audience.noConfusion

/-- What a caller has still to do of a use when it has let go of the lock. -/
inductive Errand where
  | log (t : Transition)
  | tell (who : Audience) (t : Transition)
  /-- Get the answer to an attempt: a permit, or a rejection that is counted. -/
  | answer (verdict : Breaker.Verdict)

namespace Errand

/-- The transition of which someone is told. -/
def told? (who : Audience) : Errand → Option Transition
  | tell other t => if other = who then some t else none
  | _ => none

/-- Whether someone is told of a transition. -/
def isTelling : Errand → Bool
  | tell _ _ => true
  | _ => false

/-- The errands of announcing a transition. -/
def announcement (r : Registry) : Option Transition → List Errand
  | none => []
  | some t => log t :: r.audience.map (tell · t)

/-- Everyone is told of it once. -/
theorem told_announcement {r : Registry} {who : Audience} (hwho : who ∈ r.audience)
    (t : Option Transition) : (announcement r t).filterMap (told? who) = t.toList := by
  cases t with
  | none => rfl
  | some t =>
      have honce : r.audience.filter (· = who) = [who] := by
        rw [List.filter_eq, List.count_eq_one_of_mem r.audience_nodup hwho]
        rfl
      calc (announcement r (some t)).filterMap (told? who)
          = (r.audience.filter (· = who)).filterMap fun _ => some t := by
            rw [List.filterMap_filter, announcement, List.filterMap_cons_none rfl,
              List.filterMap_map]
            simp [told?, Function.comp_def]
        _ = [t] := by rw [honce]; rfl

end Errand

namespace Usage

/-- What a use makes of the breaker while it holds the lock. -/
def locked (u : Usage) (x : Use) : Moved :=
  match x with
  | .acquire => (u.circuit.breaker.attempt u.now).1
  | .check => u.circuit.breaker.check u.now
  | .forceOpen => u.circuit.breaker.forceOpen u.now
  | .reset => u.circuit.breaker.reset u.now
  | x =>
    match x.permit?.bind (u.permits[·]?) with
    | none => u.circuit.breaker.stays
    | some p => u.settled p x

/-- The circuit when the caller lets go of the lock; a permit that the use needs is used up then. -/
def begun (u : Usage) (x : Use) : Usage :=
  { u.put (u.locked x).breaker with
    permits := (x.permit?.map u.permits.eraseIdx).getD u.permits }

/-- The answer that a caller waits for. -/
def verdicts (u : Usage) : Use → List Breaker.Verdict
  | .acquire => [(u.circuit.breaker.attempt u.now).2]
  | _ => []

/-- The circuit when an attempt has been answered. -/
def answered (u : Usage) : Breaker.Verdict → Usage
  | .granted generation => { u with permits := ⟨generation, u.instant⟩ :: u.permits }
  | .rejected _ _ => u.put u.circuit.breaker.countRejection

/-- The circuit when an errand has been done. -/
def carried (u : Usage) : Errand → Usage
  | .answer verdict => u.answered verdict
  | _ => u

/-- Both parts together are the use. -/
theorem use_in_parts {u : Usage} (hpassive : u.circuit.callbacks.IsPassive) (x : Use) :
    { u.use x with instant := u.instant } = (u.verdicts x).foldl answered (u.begun x) := by
  have hsettles : ∀ i, x.permit? = some i → u.verdicts x = [] → u.locked x =
      (match x.permit?.bind (u.permits[·]?) with
        | none => u.circuit.breaker.stays
        | some p => u.settled p x) →
      { u.use x with instant := u.instant } = (u.verdicts x).foldl answered (u.begun x) := by
    intro i hx hverdicts hlocked
    rw [hverdicts, List.foldl_nil, begun, hlocked, hx, Option.bind_some]
    cases hp : u.permits[i]? with
    | none =>
        rw [use, step_settle_none hpassive hx hp]
        simp only [Option.map_some, Option.getD_some,
          List.eraseIdx_of_length_le (List.getElem?_eq_none_iff.mp hp)]
        rfl
    | some p =>
        obtain ⟨told, hstep, _⟩ := step_settle hpassive hx hp
        rw [use, hstep]
        rfl
  cases x with
  | wait d => rfl
  | acquire =>
      rw [use, step_acquire hpassive, verdicts, begun, locked]
      rcases u.circuit.breaker.attempt u.now with ⟨m, verdict⟩
      cases verdict <;> rfl
  | check => rw [use, step_check hpassive]; rfl
  | forceOpen => rw [use, step_forceOpen hpassive]; rfl
  | reset => rw [use, step_reset hpassive]; rfl
  | complete i how => exact hsettles i rfl rfl rfl
  | timeOut i timeout => exact hsettles i rfl rfl rfl
  | fault i fault => exact hsettles i rfl rfl rfl
  | release i => exact hsettles i rfl rfl rfl

/-- The first part changes the state as the use does. -/
theorem state_begun {u : Usage} (hpassive : u.circuit.callbacks.IsPassive) (x : Use) :
    (u.begun x).state = (u.use x).state := by
  have hwhole := congrArg state (use_in_parts hpassive x)
  have hanswered : ∀ (v : Usage) (verdicts : List Breaker.Verdict),
      (verdicts.foldl answered v).state = v.state := by
    intro v verdicts
    induction verdicts generalizing v with
    | nil => rfl
    | cons verdict rest ih =>
        rw [List.foldl_cons, ih]
        cases verdict <;> rfl
  rw [hanswered] at hwhole
  exact hwhole.symm

/-- It makes the transition from the one state to the other. -/
theorem locked_transition (u : Usage) (x : Use) :
    (u.locked x).transition =
      (if (u.begun x).state = u.state then none
        else some ⟨u.circuit.breaker.name, u.state, (u.begun x).state, u.now⟩) ∧
    ∀ t ∈ (u.locked x).transition, t.IsProper := by
  have hannounces : u.circuit.breaker.Announces u.now (u.locked x) →
      (u.locked x).transition =
        (if (u.begun x).state = u.state then none
          else some ⟨u.circuit.breaker.name, u.state, (u.begun x).state, u.now⟩) ∧
      ∀ t ∈ (u.locked x).transition, t.IsProper := fun h => ⟨h.transition_eq, h.isProper⟩
  cases x with
  | wait d => exact hannounces (.nothing rfl rfl rfl rfl)
  | acquire => exact hannounces (u.circuit.breaker.attempt_announces u.now)
  | check => exact hannounces (u.circuit.breaker.check_leads u.now).announces
  | forceOpen => exact hannounces (u.circuit.breaker.forceOpen_announces u.now)
  | reset =>
      by_cases hclosed : u.circuit.breaker.state = .closed
      · have hnone : (u.locked .reset).transition = none := if_pos hclosed
        rw [hnone, if_pos (show (u.begun .reset).state = u.state from hclosed.symm)]
        exact ⟨rfl, fun t ht => by cases ht⟩
      · exact hannounces (Breaker.reset_announces hclosed u.now)
  | _ =>
      apply hannounces
      unfold locked
      dsimp only
      split
      · exact .nothing rfl rfl rfl rfl
      · obtain ⟨updated, hupdated, hleads⟩ := u.circuit.breaker.settle_leads u.now _ _
        exact hleads.announces.of_alike hupdated

/-- This is the change of state that the use makes. -/
theorem locked_change {u : Usage} (hpassive : u.circuit.callbacks.IsPassive) (x : Use) :
    (u.locked x).transition = u.change? x := by
  rw [(u.locked_transition x).1, state_begun hpassive, change?]

end Usage

namespace Management

/-- A circuit of a registry as it is left by a use. -/
def placed (m : Management) (i : Nat) (u : Usage) : Management :=
  { m with
    fleet := { m.fleet with circuits := m.fleet.circuits.set i u.circuit }
    permits := Function.update m.permits i u.permits }

/-- Do what is still to be done of a use of one circuit.  A listener that is told of a transition
finds the circuit in the state in which it is by then. -/
def carryOut (m : Management) (i : Nat) : Errand → Management
  | .log t => { m with fleet := m.fleet.note (.moved t) }
  | .tell (.listener j) t => { m with fleet := m.fleet.note (.heard j t (m.stateOf i)) }
  | .tell .channel t =>
    { m with fleet := { m.fleet with channel := m.fleet.channel.publish [t] } }
  | .answer verdict =>
    match m.usage? i with
    | none => m
    | some u => m.placed i (u.answered verdict)

/-- The transitions of which someone was told so far. -/
def told (m : Management) : Audience → List Transition
  | .listener j => m.fleet.journal.heardBy j
  | .channel => m.fleet.channel.published

/-- What is to be done when a caller has let go of the lock. -/
def errands (m : Management) (u : Usage) (x : Use) : List Errand :=
  Errand.announcement m.registry (u.locked x).transition ++ (u.verdicts x).map .answer

section Placed

variable {m : Management} {i : Nat} {u v : Usage}

/-- A circuit is as it is left, and the others are as they were. -/
theorem usage?_placed (hu : m.usage? i = some u) (v : Usage) (j : Nat) :
    (m.placed i v).usage? j =
      if i = j then some { v with instant := u.instant } else m.usage? j := by
  obtain ⟨hcircuit, hinstant, _⟩ := usage?_eq_some.mp hu
  have hi : i < m.fleet.circuits.length := (List.getElem?_eq_some_iff.mp hcircuit).1
  unfold usage? placed
  by_cases hij : i = j
  · subst hij
    simp only [List.getElem?_set_self hi, Option.map_some, Function.update_self, if_true, hinstant]
  · simp only [List.getElem?_set_ne hij, Function.update_of_ne (Ne.symm hij), if_neg hij]

/-- So are the states. -/
theorem stateOf_placed (hu : m.usage? i = some u) (v : Usage) (j : Nat) :
    (m.placed i v).stateOf j = if i = j then v.state else m.stateOf j := by
  rw [stateOf, stateOf, circuit_eq, circuit_eq, usage?_placed hu]
  split <;> rfl

end Placed

/-- Errands change no state. -/
theorem stateOf_carryOut (m : Management) (i : Nat) (e : Errand) (j : Nat) :
    (m.carryOut i e).stateOf j = m.stateOf j := by
  cases e with
  | log t => rfl
  | tell who t => cases who <;> rfl
  | answer verdict =>
      unfold carryOut
      cases hu : m.usage? i with
      | none => rfl
      | some u =>
          dsimp only
          rw [stateOf_placed hu]
          split
          · rename_i hij
            subst hij
            rw [stateOf_usage hu]
            cases verdict <;> rfl
          · rfl

/-- Of what an errand tells someone, it tells this one only. -/
theorem told_carryOut (m : Management) (i : Nat) (e : Errand) (who : Audience) :
    (m.carryOut i e).told who = m.told who ++ (e.told? who).toList := by
  cases e with
  | log t => cases who <;> simp [carryOut, told, Fleet.note, Journal.heardBy, Note.heardBy?,
      Errand.told?]
  | tell other t =>
      cases other with
      | listener k =>
          cases who with
          | listener j =>
              by_cases hkj : k = j <;> simp [carryOut, told, Fleet.note, Journal.heardBy,
                Note.heardBy?, Errand.told?, hkj]
          | channel => simp [carryOut, told, Fleet.note, Errand.told?]
      | channel =>
          cases who <;> simp [carryOut, told, Channel.publish, Errand.told?]
  | answer verdict =>
      have hsame : (m.carryOut i (.answer verdict)).told who = m.told who := by
        unfold carryOut
        cases m.usage? i <;> cases who <;> rfl
      rw [hsame]
      exact (List.append_nil _).symm

/-- Of the circuits an errand concerns the one of its use. -/
theorem usage?_carryOut (m : Management) (i : Nat) (e : Errand) (j : Nat) :
    (m.carryOut i e).usage? j = if i = j then (m.usage? j).map (·.carried e) else m.usage? j := by
  have hsame : ∀ n : Management, n.usage? j = m.usage? j → (∀ u : Usage, u.carried e = u) →
      n.usage? j = if i = j then (m.usage? j).map (·.carried e) else m.usage? j := by
    intro n hn hcarried
    rw [hn]
    split
    · cases m.usage? j with
      | none => rfl
      | some u => exact congrArg some (hcarried u).symm
    · rfl
  cases e with
  | log t => exact hsame _ rfl fun _ => rfl
  | tell who t => cases who <;> exact hsame _ rfl fun _ => rfl
  | answer verdict =>
      unfold carryOut
      cases hu : m.usage? i with
      | none =>
          dsimp only
          split
          · rename_i hij
            rw [← hij, hu]
            rfl
          · rfl
      | some u =>
          dsimp only
          rw [usage?_placed hu]
          split
          · rename_i hij
            rw [← hij, hu]
            cases verdict <;> rfl
          · rfl

/-- The channel keeps as much as before. -/
theorem capacity_carryOut (m : Management) (i : Nat) (e : Errand) :
    (m.carryOut i e).fleet.channel.capacity = m.fleet.channel.capacity := by
  cases e with
  | log t => rfl
  | tell who t => cases who <;> rfl
  | answer verdict =>
      unfold carryOut
      cases m.usage? i <;> rfl

/-- Errands register nothing. -/
@[simp]
theorem carryOut_registry (m : Management) (i : Nat) (e : Errand) :
    (m.carryOut i e).registry = m.registry := by
  cases e with
  | log t => rfl
  | tell who t => cases who <;> rfl
  | answer verdict =>
      unfold carryOut
      cases m.usage? i <;> rfl

/-! ## All errands of a use -/

/-- What is to be told of a use is the transition that its first part made. -/
theorem told_errands {m : Management} {who : Audience} (hwho : who ∈ m.registry.audience)
    (u : Usage) (x : Use) :
    (m.errands u x).filterMap (Errand.told? who) = (u.locked x).transition.toList := by
  have hsilent : ((u.verdicts x).map Errand.answer).filterMap (Errand.told? who) = [] := by
    rw [List.filterMap_map]
    exact List.filterMap_eq_nil_iff.mpr fun _ _ => rfl
  rw [errands, List.filterMap_append, hsilent, Errand.told_announcement hwho, List.append_nil]

/-- There are no more errands than one for each listener and three others. -/
theorem length_errands_le (m : Management) (u : Usage) (x : Use) :
    (m.errands u x).length ≤ m.registry.listeners + 3 := by
  have hverdicts : (u.verdicts x).length ≤ 1 := by
    cases x <;> simp [Usage.verdicts]
  have hannounced : (Errand.announcement m.registry (u.locked x).transition).length ≤
      m.registry.listeners + 2 := by
    cases (u.locked x).transition <;> simp [Errand.announcement, Registry.audience]
  rw [errands, List.length_append, List.length_map]
  omega

/-- Two registries in use that differ at most in log lines that are about no transition. -/
structure Resembles (m n : Management) : Prop where
  registry : m.registry = n.registry
  usage : ∀ i, m.usage? i = n.usage? i
  channel : m.fleet.channel = n.fleet.channel
  heard : ∀ j < m.registry.listeners,
    m.fleet.journal.heardBy j = n.fleet.journal.heardBy j

/-- All circuits have the callbacks of the registry. -/
def Uniform (m : Management) : Prop :=
  ∀ c ∈ m.fleet.circuits, c.callbacks = m.registry.callbacks

/-- The first part of a deed makes no other ones. -/
theorem Uniform.prepare {m : Management} (h : m.Uniform) (d : Deed) : (m.prepare d).Uniform := by
  apply prepare_cases (P := Uniform)
  · exact h
  · exact fun d => h
  · intro service
    cases hfind : m.registry.find? service with
    | some i => rwa [(obtained_of_find hfind).1]
    | none =>
        rw [(obtained_of_none hfind).1]
        intro c hc
        rcases List.mem_append.mp hc with hold | hnew
        · exact h c hold
        · rw [List.mem_singleton.mp hnew]
          rfl
  · exact fun service => h
  · intro service config
    obtain ⟨journal, hfleet⟩ := m.configured_fleet service config
    intro c hc
    rw [hfleet] at hc
    exact h c hc
  · intro i draws c hc
    obtain ⟨j, hj⟩ := List.mem_iff_getElem?.mp hc
    simp only [drawn, List.getElem?_modify, Option.map_eq_map, Option.map_eq_some_iff] at hj
    obtain ⟨before, hbefore, rfl⟩ := hj
    have hsame := h before (List.mem_of_getElem? hbefore)
    split <;> exact hsame

/-- Nor does a use leave any. -/
theorem Uniform.placed {m : Management} (h : m.Uniform) {i : Nat} {u v : Usage}
    (hu : m.usage? i = some u) (hv : v.circuit.callbacks = u.circuit.callbacks) :
    (m.placed i v).Uniform := by
  intro c hc
  rcases List.mem_or_eq_of_mem_set hc with hold | rfl
  · exact h c hold
  · exact hv.trans (h _ (List.mem_of_getElem? (usage?_eq_some.mp hu).1))

/-- Nor does an errand. -/
theorem Uniform.carryOut {m : Management} (h : m.Uniform) (i : Nat) (e : Errand) :
    (m.carryOut i e).Uniform := by
  cases e with
  | log t => exact h
  | tell who t => cases who <;> exact h
  | answer verdict =>
      unfold Management.carryOut
      cases hu : m.usage? i with
      | none => exact h
      | some u => exact h.placed hu (by cases verdict <;> rfl)

section Errands

variable (m : Management) (i : Nat) (es : List Errand)

/-- What several errands make of the circuits. -/
theorem usage?_foldl_carryOut (j : Nat) :
    (es.foldl (·.carryOut i ·) m).usage? j =
      if i = j then (m.usage? j).map (es.foldl Usage.carried ·) else m.usage? j := by
  induction es generalizing m with
  | nil => simp
  | cons e rest ih =>
      rw [List.foldl_cons, ih, usage?_carryOut]
      split
      · rw [Option.map_map]
        rfl
      · rfl

/-- What they tell. -/
theorem told_foldl_carryOut (who : Audience) :
    (es.foldl (·.carryOut i ·) m).told who = m.told who ++ es.filterMap (Errand.told? who) := by
  induction es generalizing m with
  | nil => exact (List.append_nil _).symm
  | cons e rest ih =>
      rw [List.foldl_cons, ih, told_carryOut, List.append_assoc]
      cases h : e.told? who with
      | none => rw [List.filterMap_cons_none h]; rfl
      | some t => rw [List.filterMap_cons_some h]; rfl

/-- What they leave. -/
theorem foldl_carryOut_leaves :
    (es.foldl (·.carryOut i ·) m).registry = m.registry ∧
      (es.foldl (·.carryOut i ·) m).fleet.channel.capacity = m.fleet.channel.capacity := by
  induction es generalizing m with
  | nil => exact ⟨rfl, rfl⟩
  | cons e rest ih =>
      obtain ⟨hregistry, hcapacity⟩ := ih (m.carryOut i e)
      exact ⟨hregistry.trans (m.carryOut_registry i e),
        hcapacity.trans (m.capacity_carryOut i e)⟩

end Errands

/-- Announcing a transition leaves the circuit. -/
theorem foldl_errands (m : Management) (u v : Usage) (x : Use) :
    (m.errands u x).foldl Usage.carried v = (u.verdicts x).foldl Usage.answered v := by
  have hannounced : ∀ es : List Errand, (∀ e ∈ es, ∀ w : Usage, w.carried e = w) →
      es.foldl Usage.carried v = v := by
    intro es h
    induction es with
    | nil => rfl
    | cons e rest ih =>
        rw [List.foldl_cons, h e List.mem_cons_self]
        exact ih fun e he => h e (List.mem_cons_of_mem _ he)
  rw [errands, List.foldl_append, List.foldl_map, hannounced]
  · rfl
  · intro e he w
    cases ht : (u.locked x).transition with
    | none =>
        rw [ht] at he
        cases he
    | some t =>
        rw [ht] at he
        rcases List.mem_cons.mp he with rfl | hmem
        · rfl
        · obtain ⟨who, _, rfl⟩ := List.mem_map.mp hmem
          rfl

/-- The errands of a use, done when its first part has left the circuit, leave what the use as a
whole leaves. -/
theorem Uniform.resembles_useOn {m : Management} (h : m.Uniform) {i : Nat} {u : Usage}
    (hu : m.usage? i = some u) (x : Use) :
    ((m.errands u x).foldl (·.carryOut i ·) (m.placed i (u.begun x))).Resembles
      (m.useOn i x).1 := by
  have hcallbacks : u.circuit.callbacks = m.registry.callbacks :=
    h _ (List.mem_of_getElem? (usage?_eq_some.mp hu).1)
  have hpassive : u.circuit.callbacks.IsPassive := by
    rw [hcallbacks]
    exact callbacks_passive _
  have hpublishes : u.circuit.callbacks.publishes = true := by
    rw [hcallbacks]
    rfl
  have htold : ∀ who ∈ m.registry.audience,
      ((m.errands u x).foldl (·.carryOut i ·) (m.placed i (u.begun x))).told who =
        m.told who ++ (u.notes x).transitions := by
    intro who hwho
    rw [told_foldl_carryOut, Usage.transitions_notes hpassive, ← Usage.locked_change hpassive]
    exact congrArg₂ (· ++ ·) (by cases who <;> rfl) (told_errands hwho u x)
  obtain ⟨hregistry, hcapacity⟩ := (m.placed i (u.begun x)).foldl_carryOut_leaves i (m.errands u x)
  refine
    { registry := hregistry.trans (m.useOn_registry i x).symm
      usage := ?_
      channel := ?_
      heard := ?_ }
  · intro j
    rw [usage?_foldl_carryOut, usage?_placed hu]
    by_cases hij : i = j
    · subst hij
      rw [if_pos rfl, if_pos rfl, usage?_useOn hu, Usage.use_in_parts hpassive, Option.map_some,
        foldl_errands]
      rfl
    · rw [if_neg hij, if_neg hij, usage?_useOn_other hij]
  · rw [useOn_some hu, if_pos hpublishes]
    exact congrArg₂ Channel.mk hcapacity (htold .channel (Registry.channel_mem_audience _))
  · intro j hj
    rw [hregistry] at hj
    have hnotes := u.told_notes x
    rw [hcallbacks] at hnotes
    rw [useOn_some hu, Journal.heardBy_append, hnotes.heard j hj]
    exact htold (.listener j) (Registry.listener_mem_audience hj)

end Management

end FailFast
