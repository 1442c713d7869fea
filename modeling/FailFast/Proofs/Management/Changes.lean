import FailFast.Proofs.Chronicle
import FailFast.Proofs.Management

/-!
# Changes of state in a registry

Every circuit that a registry makes publishes its transitions and tells the listeners of them, for
as long as anyone uses it, whether it is still registered or not.  Where one thing is done after the
other, what is published and what every listener hears are the changes of state that are made, in
their order.

Main results:

- Theorem `Management.stateOf_prepare`: the first part of a deed changes no state.
- Theorem `Management.Orderly.tells_deeds`: the changes of state of each circuit lead from one to
  the next, all of them are published, and all listeners are told of them.
-/

namespace FailFast

/-! ## Changes of state -/

/-- A change of state that a use makes is proper. -/
theorem Usage.change?_proper {u : Usage} (hpassive : u.circuit.callbacks.IsPassive) {x : Use}
    {t : Transition} (ht : u.change? x = some t) : t.IsProper := by
  have hnoted := transitions_notes hpassive x
  rw [ht, Option.toList_some] at hnoted
  cases movesOnce hpassive x with
  | stays hnotes _ =>
      rw [hnotes] at hnoted
      cases hnoted
  | moves made hnotes hproper _ _ _ =>
      rw [hnotes] at hnoted
      cases hnoted
      exact hproper

namespace Management

/-- The state of the circuit of a number; one that is not made yet will be closed. -/
def stateOf (m : Management) (i : Nat) : State :=
  (m.fleet.circuits[i]?.map (·.breaker.state)).getD .closed

/-- The change of state that a use of the circuit of a number makes, if it makes one. -/
def change? (m : Management) (i : Nat) (x : Use) : Option (Nat × Transition) :=
  ((m.usage? i).bind (·.change? x)).map (i, ·)

/-- The changes of state that are made when circuits are used one after the other, each with the
number of its circuit, in their order. -/
def changes (m : Management) : List (Nat × Use) → List (Nat × Transition)
  | [] => []
  | (i, x) :: rest => (m.change? i x).toList ++ (m.useOn i x).1.changes rest

/-- The changes of state that a deed makes. -/
def changesBy (m : Management) (d : Deed) : List (Nat × Transition) :=
  (m.prepare d).changes ((m.prepare d).touches d)

/-- The changes of state that several deeds make, in their order. -/
def changesIn (m : Management) : List Deed → List (Nat × Transition)
  | [] => []
  | d :: rest => m.changesBy d ++ (m.deed d).changesIn rest

/-- The transitions of one circuit among changes of state. -/
def ofCircuit (changes : List (Nat × Transition)) (i : Nat) : List Transition :=
  (changes.filter (·.1 = i)).map Prod.snd

theorem ofCircuit_append (before after : List (Nat × Transition)) (i : Nat) :
    ofCircuit (before ++ after) i = ofCircuit before i ++ ofCircuit after i := by
  rw [ofCircuit, List.filter_append, List.map_append]
  rfl

/-- The state of a circuit in use. -/
theorem stateOf_usage {m : Management} {i : Nat} {u : Usage} (hu : m.usage? i = some u) :
    m.stateOf i = u.state := by
  rw [stateOf, (usage?_eq_some.mp hu).1]
  rfl

/-- The first part of a deed changes no state. -/
theorem stateOf_prepare (m : Management) (d : Deed) (i : Nat) :
    (m.prepare d).stateOf i = m.stateOf i := by
  apply prepare_cases (P := fun n => n.stateOf i = m.stateOf i)
  · rfl
  · exact fun d => rfl
  · intro service
    cases hfind : m.registry.find? service with
    | some j => rw [(obtained_of_find hfind).1]
    | none =>
        rw [(obtained_of_none hfind).1]
        unfold stateOf
        simp only [Fleet.add, Fleet.note]
        rcases Nat.lt_trichotomy i m.fleet.circuits.length with hlt | rfl | hgt
        · rw [List.getElem?_append_left hlt]
        · rw [List.getElem?_concat_length, List.getElem?_eq_none (Nat.le_refl _)]
          rfl
        · rw [List.getElem?_eq_none (by rw [List.length_append]; exact hgt),
            List.getElem?_eq_none (Nat.le_of_lt hgt)]
  · exact fun service => rfl
  · intro service config
    obtain ⟨journal, hfleet⟩ := m.configured_fleet service config
    rw [stateOf, hfleet]
    rfl
  · intro j draws
    unfold stateOf
    simp only [drawn, List.getElem?_modify]
    cases m.fleet.circuits[i]? with
    | none => rfl
    | some c =>
        simp only [Option.map_eq_map, Option.map_some]
        split <;> rfl

/-! ## Who is told of them -/

/-- From one time to another the circuits make some changes of state, each leading on from the state
that its circuit was in, and everybody is told of them: they are published, and every listener hears
of them. -/
structure Tells (m n : Management) (changes : List (Nat × Transition)) : Prop where
  path : ∀ i, Transition.Path (m.stateOf i) (ofCircuit changes i) (n.stateOf i)
  published : n.fleet.channel.published = m.fleet.channel.published ++ changes.map Prod.snd
  capacity : n.fleet.channel.capacity = m.fleet.channel.capacity
  listeners : n.registry.listeners = m.registry.listeners
  heard : ∀ i < m.registry.listeners,
    n.fleet.journal.heardBy i = m.fleet.journal.heardBy i ++ changes.map Prod.snd

/-- No state changes and no one is told of anything. -/
theorem tells_nothing {m n : Management} (hstate : ∀ i, n.stateOf i = m.stateOf i)
    (hchannel : n.fleet.channel = m.fleet.channel)
    (hlisteners : n.registry.listeners = m.registry.listeners)
    (hheard : ∀ i, n.fleet.journal.heardBy i = m.fleet.journal.heardBy i) : m.Tells n [] where
  path i := (hstate i).symm
  published := by rw [hchannel, List.map_nil, List.append_nil]
  capacity := congrArg Channel.capacity hchannel
  listeners := hlisteners
  heard i _ := by rw [hheard i, List.map_nil, List.append_nil]

/-- What is told first and what is told then. -/
theorem Tells.trans {m n o : Management} {before after : List (Nat × Transition)}
    (hfirst : m.Tells n before) (hthen : n.Tells o after) : m.Tells o (before ++ after) where
  path i := by
    rw [ofCircuit_append]
    exact (hfirst.path i).append (hthen.path i)
  published := by rw [hthen.published, hfirst.published, List.map_append, List.append_assoc]
  capacity := hthen.capacity.trans hfirst.capacity
  listeners := hthen.listeners.trans hfirst.listeners
  heard i hi := by
    rw [hthen.heard i (hfirst.listeners.symm ▸ hi), hfirst.heard i hi, List.map_append,
      List.append_assoc]

/-- Nobody hears of a note aside. -/
theorem heardBy_note {note : Note} (hnote : note.isAside = true) (f : Fleet) (i : Nat) :
    (f.note note).journal.heardBy i = f.journal.heardBy i := by
  simp [Fleet.note, Journal.heardBy, Note.heardBy?_of_isAside hnote]

/-- The first part of a deed tells no one of anything. -/
theorem tells_prepare (m : Management) (d : Deed) : m.Tells (m.prepare d) [] := by
  obtain ⟨hchannel, hlisteners, hheard⟩ : (m.prepare d).fleet.channel = m.fleet.channel ∧
      (m.prepare d).registry.listeners = m.registry.listeners ∧
      ∀ i, (m.prepare d).fleet.journal.heardBy i = m.fleet.journal.heardBy i := by
    apply prepare_cases (P := fun n => n.fleet.channel = m.fleet.channel ∧
      n.registry.listeners = m.registry.listeners ∧
      ∀ i, n.fleet.journal.heardBy i = m.fleet.journal.heardBy i)
    · exact ⟨rfl, rfl, fun _ => rfl⟩
    · exact fun d => ⟨rfl, rfl, fun _ => rfl⟩
    · intro service
      cases hfind : m.registry.find? service with
      | some i =>
          rw [(obtained_of_find hfind).1]
          exact ⟨rfl, rfl, fun _ => rfl⟩
      | none =>
          rw [(obtained_of_none hfind).1]
          exact ⟨rfl, rfl, heardBy_note rfl m.fleet⟩
    · exact fun service => ⟨rfl, rfl, fun _ => rfl⟩
    · intro service config
      simp only [configured, Registry.configure]
      split
      · exact ⟨rfl, rfl, heardBy_note rfl m.fleet⟩
      · exact ⟨rfl, rfl, fun _ => rfl⟩
    · exact fun i draws => ⟨rfl, rfl, fun _ => rfl⟩
  exact tells_nothing (m.stateOf_prepare d) hchannel hlisteners hheard

section Run

variable {m : Management} (h : m.Orderly)

include h

/-- A change of state that a use makes leads on from the state in which the circuit was. -/
theorem Orderly.path_useOn (i : Nat) (x : Use) (j : Nat) :
    Transition.Path (m.stateOf j) (ofCircuit (m.change? i x).toList j)
      ((m.useOn i x).1.stateOf j) := by
  cases hu : m.usage? i with
  | none =>
      rw [useOn_none hu, change?, hu]
      rfl
  | some u =>
      by_cases hij : i = j
      · subst hij
        rw [stateOf_usage hu, stateOf_usage (usage?_useOn hu x), change?, hu, Option.bind_some]
        cases ht : u.change? x with
        | none =>
            unfold Usage.change? at ht
            split at ht
            · rename_i hstate
              exact hstate.symm
            · cases ht
        | some t =>
            have hproper := Usage.change?_proper (h.usage_passive hu) ht
            unfold Usage.change? at ht
            split at ht
            · cases ht
            · cases ht
              simp only [ofCircuit, Option.map_some, Option.toList_some, decide_true,
                List.filter_cons_of_pos, List.filter_nil, List.map_cons, List.map_nil]
              exact ⟨rfl, hproper, rfl⟩
      · have hnone : ofCircuit (m.change? i x).toList j = [] := by
          rw [change?, hu, Option.bind_some]
          cases u.change? x with
          | none => rfl
          | some t => simp [ofCircuit, hij]
        have hstate : (m.useOn i x).1.stateOf j = m.stateOf j := by
          rw [useOn_some hu, stateOf, stateOf, List.getElem?_set_ne hij]
        rw [hnone, hstate]
        rfl

/-- Everybody is told of it. -/
theorem Orderly.tells_useOn (i : Nat) (x : Use) :
    m.Tells (m.useOn i x).1 (m.change? i x).toList := by
  cases hu : m.usage? i with
  | none =>
      rw [useOn_none hu, change?, hu]
      exact tells_nothing (fun _ => rfl) rfl rfl fun _ => rfl
  | some u =>
      have hcallbacks := h.usage_callbacks hu
      have hpublishes : u.circuit.callbacks.publishes = true := by
        rw [hcallbacks]
        rfl
      have htold := u.told_notes x
      rw [hcallbacks] at htold
      have hchange : (m.change? i x).toList.map Prod.snd = (u.notes x).transitions := by
        rw [Usage.transitions_notes (h.usage_passive hu) x, change?, hu, Option.bind_some]
        cases u.change? x <;> rfl
      refine ⟨h.path_useOn i x, ?_, ?_, ?_, ?_⟩
      · rw [hchange, useOn_some hu, if_pos hpublishes]
        rfl
      · rw [useOn_some hu, if_pos hpublishes]
        rfl
      · rw [useOn_some hu]
      · intro j hj
        rw [hchange, useOn_some hu, Journal.heardBy_append, htold.heard j hj]

/-- So it is when circuits are used one after the other. -/
theorem Orderly.tells_useAll (touches : List (Nat × Use)) :
    m.Tells (m.useAll touches).1 (m.changes touches) := by
  induction touches generalizing m with
  | nil => exact tells_nothing (fun _ => rfl) rfl rfl fun _ => rfl
  | cons touch rest ih => exact (h.tells_useOn touch.1 touch.2).trans (ih (h.useOn _ _))

/-- So it is with a deed. -/
theorem Orderly.tells_deed (d : Deed) : m.Tells (m.deed d) (m.changesBy d) :=
  (m.tells_prepare d).trans ((h.prepare d).tells_useAll _)

/-- And with several. -/
theorem Orderly.tells_deeds (ds : List Deed) : m.Tells (m.deeds ds) (m.changesIn ds) := by
  induction ds generalizing m with
  | nil => exact tells_nothing (fun _ => rfl) rfl rfl fun _ => rfl
  | cons d rest ih => exact (h.tells_deed d).trans (ih (h.deed d))

end Run

end Management

end FailFast
