import FailFast.Proofs.Usage.Passive

/-!
# What a use of a circuit keeps and what it tells

No use of a circuit with passive callbacks changes its name or its configuration.  What it tells is
the change of state that it makes, under the name of the circuit; and whatever the callbacks are, all
listeners are told the same.

Main results:

- Theorem `Usage.kept`: a use keeps the name and the configuration.
- Theorem `Usage.transitions_notes`: a use notes the change of state that it makes.
- Theorem `Usage.told_notes`: all listeners are told of what a use notes.
-/

namespace FailFast

/-- An operation keeps the name and the configuration, and its transition is one of the circuit. -/
structure Breaker.Keeps (b : Breaker) (m : Moved) : Prop where
  name : m.breaker.name = b.name
  config : m.breaker.config = b.config
  transition : ∀ t ∈ m.transition, t.circuit = b.name

namespace Breaker

/-- Every way on from an updated breaker does. -/
theorem Leads.keeps {b updated : Breaker} {now : Nat} {m : Moved} (h : updated.Leads now m)
    (hupdated : b.Alike updated) : b.Keeps m where
  name := h.name.trans hupdated.name
  config := h.config.trans hupdated.config
  transition := by
    intro t ht
    rw [← hupdated.name]
    cases h with
    | stays => cases ht
    | opens forced _ => cases ht; rfl
    | probes _ => cases ht; rfl
    | closes _ => cases ht; rfl

/-- So does a reset. -/
theorem reset_keeps (b : Breaker) (now : Nat) : b.Keeps (b.reset now) where
  name := rfl
  config := rfl
  transition := by
    intro t ht
    simp only [reset] at ht
    split at ht
    · cases ht
    · cases ht
      rfl

/-- So does an attempt. -/
theorem attempt_keeps (b : Breaker) (now : Nat) : b.Keeps (b.attempt now).1 := by
  have hchecked := (check_leads b now).keeps (Alike.refl b)
  have hdecided := decideNow_alike (b.check now).breaker now
  exact ⟨hdecided.name.trans hchecked.name, hdecided.config.trans hchecked.config,
    hchecked.transition⟩

end Breaker

namespace Usage

/-- The change of state that a use makes, if it makes one. -/
def change? (u : Usage) (x : Use) : Option Transition :=
  if (u.use x).state = u.state then none
  else some ⟨u.circuit.breaker.name, u.state, (u.use x).state, u.now⟩

/-- A use keeps the name and the configuration of the circuit, and tells of transitions of this
circuit only. -/
structure Kept (u : Usage) (x : Use) : Prop where
  name : (u.use x).circuit.breaker.name = u.circuit.breaker.name
  config : (u.use x).circuit.breaker.config = u.circuit.breaker.config
  transitions : ∀ t ∈ (u.notes x).transitions, t.circuit = u.circuit.breaker.name

/-- So does a use that is one operation of the breaker. -/
theorem kept_of_keeps {u : Usage} {x : Use} {m : Moved} (h : u.circuit.breaker.Keeps m)
    (hname : (u.use x).circuit.breaker.name = m.breaker.name)
    (hconfig : (u.use x).circuit.breaker.config = m.breaker.config)
    (hnotes : (u.notes x).transitions = m.transition.toList) : u.Kept x where
  name := hname.trans h.name
  config := hconfig.trans h.config
  transitions := by
    rw [hnotes]
    intro t ht
    exact h.transition t (Option.mem_toList.mp ht)

section Passive

variable {u : Usage} (hpassive : u.circuit.callbacks.IsPassive)

include hpassive

/-- Every use keeps the name and the configuration. -/
theorem kept (x : Use) : u.Kept x := by
  have hsettles : ∀ i, x.permit? = some i → u.Kept x := by
    intro i hx
    cases hp : u.permits[i]? with
    | none =>
        refine ⟨?_, ?_, ?_⟩
        all_goals simp only [use, notes, step_settle_none hpassive hx hp]
        exact List.forall_mem_nil _
    | some p =>
        obtain ⟨told, hstep, htold⟩ := step_settle hpassive hx hp
        obtain ⟨updated, hupdated, hleads⟩ :=
          u.circuit.breaker.settle_leads u.now p (u.outcome? p x)
        apply kept_of_keeps (hleads.keeps hupdated)
        · rw [use, hstep]
          rfl
        · rw [use, hstep]
          rfl
        · rw [notes, hstep]
          exact htold
  cases x with
  | wait d => exact ⟨rfl, rfl, List.forall_mem_nil _⟩
  | acquire =>
      have hkeeps := u.circuit.breaker.attempt_keeps u.now
      rcases hattempt : u.circuit.breaker.attempt u.now with ⟨m, verdict⟩
      rw [hattempt] at hkeeps
      cases verdict with
      | granted generation =>
          apply kept_of_keeps hkeeps
          all_goals simp only [use, notes, step_acquire_granted hpassive hattempt]
          · rfl
          · rfl
          · exact Callbacks.transitions_announced _ m
      | rejected state retryAfter =>
          apply kept_of_keeps hkeeps
          all_goals simp only [use, notes, step_acquire_rejected hpassive hattempt]
          · rfl
          · rfl
          · rw [Journal.transitions_append, Callbacks.transitions_announced]
            exact List.append_nil _
  | check =>
      apply kept_of_keeps ((u.circuit.breaker.check_leads u.now).keeps (.refl _))
      all_goals simp only [use, notes, step_check hpassive]
      · rfl
      · rfl
      · exact Callbacks.transitions_announced _ _
  | forceOpen =>
      obtain ⟨marked, hmarked, _, hleads⟩ := u.circuit.breaker.forceOpen_leads u.now
      apply kept_of_keeps (hleads.keeps hmarked)
      all_goals simp only [use, notes, step_forceOpen hpassive]
      · rfl
      · rfl
      · rw [Journal.transitions_append, Callbacks.transitions_announced]
        split <;> rfl
  | reset =>
      apply kept_of_keeps (u.circuit.breaker.reset_keeps u.now)
      all_goals simp only [use, notes, step_reset hpassive]
      · rfl
      · rfl
      · rw [Journal.transitions_cons, Callbacks.transitions_announced]
        rfl
  | complete i how => exact hsettles i rfl
  | timeOut i timeout => exact hsettles i rfl
  | fault i fault => exact hsettles i rfl
  | release i => exact hsettles i rfl

/-- What a use notes is the change of state that it makes. -/
theorem transitions_notes (x : Use) : (u.notes x).transitions = (u.change? x).toList := by
  have hcircuit := (kept hpassive x).transitions
  unfold change?
  cases movesOnce hpassive x with
  | stays hnotes hstate => rw [hnotes, if_pos hstate, Option.toList_none]
  | moves t hnotes hproper hsource htarget hreading =>
      have hchanged : (u.use x).state ≠ u.state := by
        rw [← hsource, ← htarget]
        exact hproper.1.symm
      rw [hnotes, List.forall_mem_singleton] at hcircuit
      rw [hnotes, if_neg hchanged, ← hcircuit, ← hsource, ← htarget, ← hreading, Option.toList_some]

end Passive

/-- All listeners are told of what a use notes. -/
theorem told_notes (u : Usage) (x : Use) : (u.notes x).Told u.circuit.callbacks.listeners := by
  rw [(u.use_eq_closing x).2.2]
  exact closing_induction (Scene.told_invariant u.circuit.callbacks)
    (Journal.told_nil u.circuit.callbacks.listeners) x

end Usage

end FailFast
