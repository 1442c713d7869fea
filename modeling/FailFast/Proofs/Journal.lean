import FailFast.Circuit.Callbacks

/-!
# What callbacks are told

A journal can be read as the list of transitions that were made, and for each listener as the list
of transitions that it was told of.  Listeners are told of a transition at once, before the hook of
the state entered may act.  That is why all these lists are the same, and why everyone who is told
of a transition still finds the circuit in the state that was entered.

Main results:

- Theorem `Journal.told_announcement`: all listeners are told of an announced transition, and they
  read the state that was entered.
- Theorem `Journal.Told.append`: what is told properly goes on to be told properly.
-/

namespace FailFast

/-! ## Notes and listeners -/

namespace Note

/-- The transition that a listener was told of. -/
def heardBy? (listener : Nat) : Note → Option Transition
  | heard i t _ => if i = listener then some t else none
  | _ => none

/-- A callback that is told of a transition reads the state that was entered. -/
def SeesTarget : Note → Prop
  | heard _ t seen => seen = t.target
  | hooked target _ seen => seen = target
  | _ => True

/-- Whether a note is about neither a change nor a callback that is told of one. -/
def isAside : Note → Bool
  | moved _ => false
  | heard _ _ _ => false
  | hooked _ _ _ => false
  | reset _ => false
  | _ => true

/-- A note aside announces no transition. -/
theorem transition?_of_isAside {n : Note} (h : n.isAside = true) : n.transition? = none := by
  cases n with
  | moved t => cases h
  | _ => rfl

theorem heardBy?_of_isAside {n : Note} (h : n.isAside = true) (listener : Nat) :
    n.heardBy? listener = none := by
  cases n with
  | heard i t seen => cases h
  | _ => rfl

theorem seesTarget_of_isAside {n : Note} (h : n.isAside = true) : n.SeesTarget := by
  cases n with
  | heard i t seen => cases h
  | hooked target circuit seen => cases h
  | _ => trivial

end Note

namespace Journal

/-- The transitions that a listener was told of. -/
def heardBy (j : Journal) (listener : Nat) : List Transition :=
  j.filterMap (Note.heardBy? listener)

@[simp]
theorem transitions_nil : transitions [] = [] := rfl

@[simp]
theorem transitions_cons (n : Note) (j : Journal) :
    transitions (n :: j) = n.transition?.toList ++ transitions j := by
  cases h : n.transition? with
  | none => exact List.filterMap_cons_none h
  | some t => exact List.filterMap_cons_some h

@[simp]
theorem heardBy_append (a b : Journal) (listener : Nat) :
    heardBy (a ++ b) listener = a.heardBy listener ++ b.heardBy listener :=
  List.filterMap_append

/-! ## Journals that are told properly -/

/-- Each of so many listeners was told of all transitions in their order, and whoever was told of
one read the state that was entered. -/
structure Told (listeners : Nat) (j : Journal) : Prop where
  heard : ∀ i < listeners, j.heardBy i = j.transitions
  seen : ∀ n ∈ j, n.SeesTarget

/-- Nothing was told yet. -/
theorem told_nil (listeners : Nat) : Told listeners [] :=
  ⟨fun _ _ => rfl, List.forall_mem_nil _⟩

/-- What is told properly and then goes on properly is told properly. -/
theorem Told.append {listeners : Nat} {a b : Journal} (ha : Told listeners a)
    (hb : Told listeners b) : Told listeners (a ++ b) where
  heard i hi := by rw [heardBy_append, transitions_append, ha.heard i hi, hb.heard i hi]
  seen n hn := (List.mem_append.mp hn).elim (ha.seen n) (hb.seen n)

/-- A note aside tells no one of anything. -/
theorem told_aside {n : Note} (hn : n.isAside = true) (listeners : Nat) : Told listeners [n] where
  heard i _ := by
    simp [heardBy, Note.heardBy?_of_isAside hn, Note.transition?_of_isAside hn]
  seen m hm := by
    rw [List.mem_singleton.mp hm]
    exact Note.seesTarget_of_isAside hn

/-- The log line of a reset tells no one of anything. -/
theorem told_reset (circuit : String) (listeners : Nat) : Told listeners [.reset circuit] where
  heard _ _ := rfl
  seen m hm := by
    rw [List.mem_singleton.mp hm]
    trivial

/-! ## Announcements -/

/-- One of several listeners hears once. -/
theorem heardBy_listeners (t : Transition) (seen : State) {listeners i : Nat} (hi : i < listeners) :
    heardBy ((List.range listeners).map fun j => .heard j t seen) i = [t] := by
  induction listeners with
  | zero => omega
  | succ listeners ih =>
      rw [List.range_succ, List.map_append, heardBy_append]
      by_cases hlast : i = listeners
      · have hearlier : heardBy ((List.range listeners).map fun j => .heard j t seen) i = [] := by
          simp only [heardBy, List.filterMap_map, List.filterMap_eq_nil_iff, List.mem_range,
            Function.comp_apply, Note.heardBy?]
          intro j hj
          rw [if_neg (by omega)]
        rw [hearlier, hlast]
        simp [heardBy, Note.heardBy?]
      · rw [ih (by omega)]
        simp [heardBy, Note.heardBy?, Ne.symm hlast]

/-- The notes of those who are told of a transition are no transitions themselves. -/
theorem transitions_told (c : Callbacks) (t : Transition) (seen : State) :
    transitions (c.told t seen) = [] := by
  simp only [transitions, Callbacks.told, List.filterMap_append, List.filterMap_map,
    List.append_eq_nil_iff, List.filterMap_eq_nil_iff]
  refine ⟨fun i _ => rfl, ?_⟩
  intro n hn
  split at hn
  · rw [List.mem_singleton.mp hn]
    rfl
  · cases hn

/-- All listeners are told of an announced transition, and they read the state that was entered. -/
theorem told_announcement (c : Callbacks) (t : Transition) :
    Told c.listeners (.moved t :: c.told t t.target) where
  heard i hi := by
    have hhook : heardBy (if (c.hook? t.target).isSome then
        [.hooked t.target t.circuit t.target] else []) i = [] := by
      split <;> rfl
    have htold : heardBy (c.told t t.target) i = [t] := by
      rw [Callbacks.told, heardBy_append, heardBy_listeners t t.target hi, hhook]
      rfl
    calc heardBy (.moved t :: c.told t t.target) i
        = heardBy (c.told t t.target) i := rfl
      _ = [t] := htold
      _ = t :: transitions (c.told t t.target) := by rw [transitions_told]
      _ = transitions (.moved t :: c.told t t.target) := rfl
  seen n hn := by
    rcases List.mem_cons.mp hn with rfl | hn
    · trivial
    · rcases List.mem_append.mp hn with hn | hn
      · obtain ⟨i, _, rfl⟩ := List.mem_map.mp hn
        rfl
      · split at hn
        · rw [List.mem_singleton.mp hn]
          rfl
        · cases hn

end Journal

end FailFast
