import FailFast.Proofs.Run.Effects
import FailFast.Proofs.Window

/-!
# Stale and live permits

A permit is stale when the circuit changed its state or was reset since the grant, even if the
circuit shows the same state again.  What is done with a stale permit leaves the breaker exactly as
it is.  Any other permit belongs to the closed or half-open period that is still under way, and
settling it records one outcome.

Main results:

- Theorem `Run.Sound.stale_of_opened`: while the circuit is open every permit is stale.
- Theorem `Run.Sound.act_window`: the window takes in exactly the outcomes that the history counts
  as accepted, and is emptied exactly where the circuit begins to judge afresh.
- Theorem `Run.Reachable.window_induction`: what recording and clearing keep holds of the window in
  every run.
- Theorem `Run.stale_permits_are_inert`: what becomes of a permit after a change and without one,
  and that an open circuit records nothing.
-/

namespace FailFast

namespace Run

/-- While the circuit is open every ticket is stale. -/
theorem Sound.stale_of_opened {r : Run} (hr : Sound r) (hopened : r.breaker.state = .opened)
    {t : Ticket} (ht : t ∈ r.tickets) : r.history.changedSince t.mark = true := by
  cases hsame : r.history.changedSince t.mark with
  | true => rfl
  | false => exact absurd hopened (hr.state_of_unchanged ht hsame).2

/-- No act on an open circuit reports an outcome that counts. -/
theorem Sound.accepts?_of_opened {r : Run} (hr : Sound r) (hopened : r.breaker.state = .opened)
    (a : Act) : r.accepts? a = none := by
  cases a with
  | settle i how =>
      cases ht : r.tickets[i]? with
      | none => exact accepts?_settle_none ht how
      | some t =>
          rw [accepts?_settle ht, hr.stale_of_opened hopened (mem_tickets ht)]
          rfl
  | _ => rfl

/-! ## The window in one act -/

/-- The window of the breaker with the outcome that an act reports, if it counts. -/
def windowAfter (r : Run) (a : Act) : Window :=
  match r.accepts? a with
  | none => r.breaker.window
  | some o => r.breaker.window.record r.now o

/-- Entering a half-open or closed phase empties the window and starts the reference afresh; opening
the circuit does neither. -/
theorem adopt_window (r : Run) {b : Breaker} {m : Moved} (hm : b.Leads r.now m) :
    ((r.adopt m).breaker.window = b.window ∧
      (r.adopt m).history.reference = r.history.reference) ∨
    ((r.adopt m).breaker.window = b.window.clear ∧ (r.adopt m).history.reference = []) := by
  cases hm with
  | stays => exact Or.inl ⟨rfl, rfl⟩
  | opens forced _ =>
      refine Or.inl ⟨rfl, ?_⟩
      exact (History.acceptedSince_cons rfl r.history).trans (List.append_nil _)
  | probes _ => exact Or.inr ⟨rfl, History.acceptedSince_start rfl r.history⟩
  | closes _ => exact Or.inr ⟨rfl, History.acceptedSince_start rfl r.history⟩

/-- The window takes in exactly the outcomes that the history counts as accepted, and is emptied
exactly where the circuit begins to judge afresh. -/
theorem Sound.act_window {r : Run} (hr : Sound r) (a : Act) :
    ((r.act a).breaker.window = r.windowAfter a ∧
      (r.act a).history.reference = r.history.reference ++ (r.accepts? a).toList) ∨
    ((r.act a).breaker.window = (r.windowAfter a).clear ∧ (r.act a).history.reference = []) := by
  unfold windowAfter
  cases hr.act_effect a with
  | quiet hnone _ hwindow hhistory =>
      refine Or.inl ⟨?_, ?_⟩
      · rw [hwindow, hnone]
      · rw [hhistory.reference_eq, hnone]
        exact (List.append_nil _).symm
  | due hnone _ hwindow hhistory =>
      rw [hwindow, hhistory.reference_eq, hnone]
      simp only [Option.toList_none, List.append_nil]
      exact r.adopt_window (Breaker.check_leads r.breaker r.now)
  | accepted mark o haccepts hsame hbreaker hhistory =>
      have hnoted : (r.note (.settled mark o)).history.reference = r.history.reference ++ [o] := by
        refine (r.history.reference_settled mark o).trans ?_
        rw [hsame]
        rfl
      rw [hbreaker, hhistory, haccepts, Option.toList_some, ← hnoted]
      exact (r.note (.settled mark o)).adopt_window (Breaker.complete_leads rfl r.now o)
  | forced ha hbreaker hhistory =>
      subst ha
      obtain ⟨marked, _, hwindow, hleads⟩ := Breaker.forceOpen_leads r.breaker r.now
      have hnoted : (r.note .forced).history.reference = r.history.reference ++ [] :=
        History.acceptedSince_cons rfl r.history
      simp only [accepts?, Option.toList_none]
      rw [hbreaker, hhistory, ← hnoted, ← hwindow]
      exact (r.note .forced).adopt_window hleads
  | cleared ha hbreaker hhistory =>
      subst ha
      rw [hbreaker, hhistory]
      exact Or.inr ⟨rfl, History.acceptedSince_start rfl r.history⟩

/-- What holds of a new window and is kept by recording and by clearing holds of the window in every
run. -/
theorem Reachable.window_induction {config : Config} {P : Window → Prop}
    (hstart : P config.window) (hrecord : ∀ w now o, P w → P (w.record now o))
    (hclear : ∀ w, P w → P w.clear) {r : Run} (hr : Reachable config r) : P r.breaker.window := by
  refine hr.induction (P := fun r => P r.breaker.window) (fun _ _ _ => hstart) ?_
  intro r a hr ih
  have hafter : P (r.windowAfter a) := by
    unfold windowAfter
    cases r.accepts? a with
    | none => exact ih
    | some o => exact hrecord _ r.now o ih
  rcases hr.sound.act_window a with ⟨hwindow, _⟩ | ⟨hwindow, _⟩
  · rw [hwindow]
    exact hafter
  · rw [hwindow]
    exact hclear _ hafter

/-- When the window is cleared nothing is left of what happened in a run. -/
theorem Reachable.window_clear {config : Config} {r : Run} (hr : Reachable config r) :
    r.breaker.window.clear = config.window :=
  hr.window_induction (P := fun w => w.clear = config.window) (Window.clear_window config)
    (fun w now o h => (w.clear_record now o).trans h) fun w h => w.clear_clear.trans h

/-! ## The two fates of a permit -/

/-- Once the circuit changed its state or was reset since the grant, settling or handing back a
permit leaves the breaker exactly as it is and announces nothing.  Until then the circuit is in the
closed or half-open period of the grant, and settling records one outcome.  An open circuit records
none, whatever is done. -/
theorem stale_permits_are_inert {config : Config} {r : Run} (hr : Reachable config r) :
    (∀ i t, r.tickets[i]? = some t →
      (r.history.upTo t.mark).head? = some .granted ∧
      (r.history.changedSince t.mark = true →
        (∀ how, (r.act (.settle i how)).breaker = r.breaker ∧
          (r.act (.settle i how)).history.transitions = r.history.transitions) ∧
        (r.act (.giveBack i)).breaker = r.breaker ∧
          (r.act (.giveBack i)).history.transitions = r.history.transitions) ∧
      (r.history.changedSince t.mark = false →
        r.breaker.generation = t.permit.generation ∧
        r.breaker.state = (r.history.upTo t.mark).state ∧ r.breaker.state ≠ .opened ∧
        ∀ how, r.breaker.RecordsOnce r.now (r.outcome t how)
          (r.act (.settle i how)).breaker)) ∧
    (r.breaker.state = .opened → ∀ a, r.accepts? a = none ∧
      ((r.act a).breaker.window = r.breaker.window ∨
        (r.act a).breaker.window = r.breaker.window.clear)) := by
  have hsound := hr.sound
  refine ⟨?_, ?_⟩
  · intro i t ht
    have hmem := mem_tickets ht
    refine ⟨hsound.atGrant t hmem, ?_, ?_⟩
    · intro hstale
      refine ⟨?_, ?_⟩
      · intro how
        rw [hsound.settle_stale ht hstale]
        exact ⟨rfl, rfl⟩
      · rw [hsound.giveBack_stale ht hstale]
        exact ⟨rfl, rfl⟩
    · intro hsame
      have hlive := hsound.generation_eq hmem hsame
      obtain ⟨hstate, hnotOpened⟩ := hsound.state_of_unchanged hmem hsame
      refine ⟨hlive, hstate, hnotOpened, ?_⟩
      intro how
      rw [act_settle ht]
      exact Breaker.complete_recordsOnce hlive hnotOpened _
  · intro hopened a
    have hnone := hsound.accepts?_of_opened hopened a
    refine ⟨hnone, ?_⟩
    have hafter : r.windowAfter a = r.breaker.window := by
      simp [windowAfter, hnone]
    rcases hsound.act_window a with ⟨hwindow, _⟩ | ⟨hwindow, _⟩
    · exact Or.inl (hwindow.trans hafter)
    · exact Or.inr (by rw [hwindow, hafter])

/-- The call that was admitted before the circuit opened and closed again reports in vain. -/
theorem stale_permit_after_recovery :
    Reachable .brief (probing.acts [.settle 0 .succeeded, .settle 0 .succeeded]) ∧
    (probing.acts [.settle 0 .succeeded, .settle 0 .succeeded]).breaker.state = .closed ∧
    ((probing.acts [.settle 0 .succeeded, .settle 0 .succeeded]).act (.settle 0 .failed)).breaker =
      (probing.acts [.settle 0 .succeeded, .settle 0 .succeeded]).breaker := by
  have hreachable := probing_reachable.acts [.settle 0 .succeeded, .settle 0 .succeeded]
  have hfate := (stale_permits_are_inert hreachable).1 0 ⟨⟨0, 0⟩, 1⟩ (by decide +kernel)
  exact ⟨hreachable, by decide +kernel, ((hfate.2.1 (by decide +kernel)).1 .failed).1⟩

end Run

end FailFast
