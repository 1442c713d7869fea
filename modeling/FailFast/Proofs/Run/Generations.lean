import FailFast.Proofs.Run

/-!
# Generations and stale permits

A breaker recognises a stale permit by its generation.  That is right because the generation counts
the changes of the history: it never comes back, and a permit whose generation is the current one
was granted after the last change.  So a permit since whose grant something changed does nothing
any more, even where the circuit shows the same state again, while any other permit belongs to the
closed or half-open period in which it was granted.

Main results:

- Theorem `Run.Reachable.sound`: in every run the generation counts the changes, the state is the
  one that the history tells, and every ticket carries the generation of its grant.
- Theorem `Run.Sound.generation_ne_iff`: a ticket is of another generation exactly when something
  changed since its grant.
- Theorem `Run.Sound.state_of_unchanged`: without a change the circuit is still in the state of the
  grant.
-/

namespace FailFast

namespace Run

/-! ## The invariant -/

/-- The breaker is what the history says, and tickets are as they were granted. -/
structure Sound (r : Run) : Prop where
  generation : r.breaker.generation = r.history.changes
  state : r.breaker.state = r.history.state
  mark_le : ∀ t ∈ r.tickets, t.mark ≤ r.history.length
  granted : ∀ t ∈ r.tickets, t.permit.generation = (r.history.upTo t.mark).changes
  admitted : ∀ t ∈ r.tickets, (r.history.upTo t.mark).state ≠ .opened
  atGrant : ∀ t ∈ r.tickets, (r.history.upTo t.mark).head? = some .granted

/-- A run starts closed, in the generation zero, without tickets. -/
theorem sound_start (name : String) (config : Config) (draws : Draws) (instant : Instant) :
    Sound (start name config draws instant) :=
  ⟨rfl, rfl, List.forall_mem_nil _, List.forall_mem_nil _, List.forall_mem_nil _,
    List.forall_mem_nil _⟩

/-- A ticket is of another generation exactly when something changed since its grant. -/
theorem Sound.generation_ne_iff {r : Run} (hr : Sound r) {t : Ticket} (ht : t ∈ r.tickets) :
    r.breaker.generation ≠ t.permit.generation ↔ r.history.changedSince t.mark = true := by
  have hle := r.history.changes_upTo_le t.mark
  rw [History.changedSince_iff, hr.generation, hr.granted t ht]
  omega

/-- A ticket since whose grant nothing changed carries the current generation. -/
theorem Sound.generation_eq {r : Run} (hr : Sound r) {t : Ticket} (ht : t ∈ r.tickets)
    (hsame : r.history.changedSince t.mark = false) :
    r.breaker.generation = t.permit.generation := by
  have hnot : ¬ r.breaker.generation ≠ t.permit.generation := by
    rw [hr.generation_ne_iff ht, hsame]
    exact Bool.false_ne_true
  exact Decidable.not_not.mp hnot

/-- No ticket is ahead of the breaker. -/
theorem Sound.generation_le {r : Run} (hr : Sound r) {t : Ticket} (ht : t ∈ r.tickets) :
    t.permit.generation ≤ r.breaker.generation := by
  rw [hr.generation, hr.granted t ht]
  exact r.history.changes_upTo_le t.mark

/-- Without a change the circuit is in the state in which the ticket was granted, and that is not
open. -/
theorem Sound.state_of_unchanged {r : Run} (hr : Sound r) {t : Ticket} (ht : t ∈ r.tickets)
    (hsame : r.history.changedSince t.mark = false) :
    r.breaker.state = (r.history.upTo t.mark).state ∧ r.breaker.state ≠ .opened := by
  have hstate : r.breaker.state = (r.history.upTo t.mark).state := by
    rw [hr.state]
    exact History.state_of_unchanged hsame
  refine ⟨hstate, ?_⟩
  rw [hstate]
  exact hr.admitted t ht

/-! ## Every act keeps it -/

/-- Only the generation and the state of the breaker matter. -/
theorem Sound.congr {r : Run} (hr : Sound r) {b : Breaker} (hb : r.breaker.Alike b) :
    Sound { r with breaker := b } where
  generation := hb.generation.trans hr.generation
  state := hb.state.trans hr.state
  mark_le := hr.mark_le
  granted := hr.granted
  admitted := hr.admitted
  atGrant := hr.atGrant

/-- Tickets may be given up. -/
theorem Sound.drop {r : Run} (hr : Sound r) (i : Nat) : Sound (r.drop i) where
  generation := hr.generation
  state := hr.state
  mark_le t ht := hr.mark_le t (List.mem_of_mem_eraseIdx ht)
  granted t ht := hr.granted t (List.mem_of_mem_eraseIdx ht)
  admitted t ht := hr.admitted t (List.mem_of_mem_eraseIdx ht)
  atGrant t ht := hr.atGrant t (List.mem_of_mem_eraseIdx ht)

/-- Permits may be handed over to their callers. -/
theorem Sound.handOver {r : Run} (hr : Sound r) (i : Nat) : Sound (r.act (.handOver i)) where
  generation := hr.generation
  state := hr.state
  mark_le t ht := by
    obtain ⟨held, hheld, _, hmark⟩ := mem_handOver ht
    rw [← hmark]
    exact hr.mark_le held hheld
  granted t ht := by
    obtain ⟨held, hheld, hgeneration, hmark⟩ := mem_handOver ht
    rw [← hmark, ← hgeneration]
    exact hr.granted held hheld
  admitted t ht := by
    obtain ⟨held, hheld, _, hmark⟩ := mem_handOver ht
    rw [← hmark]
    exact hr.admitted held hheld
  atGrant t ht := by
    obtain ⟨held, hheld, _, hmark⟩ := mem_handOver ht
    rw [← hmark]
    exact hr.atGrant held hheld

/-- An incident that the breaker follows leaves the tickets as they were granted. -/
theorem Sound.extend {r : Run} (hr : Sound r) {i : Incident} {b : Breaker}
    (hgeneration : b.generation = History.changes (i :: r.history))
    (hstate : b.state = History.state (i :: r.history)) :
    Sound { r with breaker := b, history := i :: r.history } where
  generation := hgeneration
  state := hstate
  mark_le t ht := by
    have hle := hr.mark_le t ht
    simp only [List.length_cons]
    omega
  granted t ht := by
    rw [History.upTo_cons (hr.mark_le t ht)]
    exact hr.granted t ht
  admitted t ht := by
    rw [History.upTo_cons (hr.mark_le t ht)]
    exact hr.admitted t ht
  atGrant t ht := by
    rw [History.upTo_cons (hr.mark_le t ht)]
    exact hr.atGrant t ht

/-- An incident that is no change may be noted. -/
theorem Sound.note {r : Run} (hr : Sound r) {i : Incident} (hi : i.isChange = false) :
    Sound (r.note i) := by
  refine hr.extend ?_ ?_
  · rw [hr.generation, History.changes_cons hi]
  · rw [hr.state, History.state_cons hi]

/-- Every way on from a breaker like the current one is followed by the history. -/
theorem Sound.adopt {r : Run} (hr : Sound r) {b : Breaker} (hb : r.breaker.Alike b) {m : Moved}
    (hm : b.Leads r.now m) : Sound (r.adopt m) := by
  cases hm with
  | stays => exact hr.congr hb
  | opens forced hstate =>
      refine hr.extend ?_ rfl
      rw [History.changes_cons_change rfl, ← hr.generation, ← hb.generation]
      rfl
  | probes hstate =>
      refine hr.extend ?_ rfl
      rw [History.changes_cons_change rfl, ← hr.generation, ← hb.generation]
      rfl
  | closes hstate =>
      refine hr.extend ?_ rfl
      rw [History.changes_cons_change rfl, ← hr.generation, ← hb.generation]
      rfl

/-- A granted permit is a ticket of the current generation, and a rejection leaves none. -/
theorem Sound.answer {r : Run} (hr : Sound r) {verdict : Breaker.Verdict}
    (hgranted : ∀ generation, verdict = .granted generation →
      generation = r.breaker.generation ∧ r.breaker.state ≠ .opened) :
    Sound (r.answer verdict) := by
  cases verdict with
  | rejected state retryAfter =>
      have hnoted : Sound (r.note .rejected) := hr.note rfl
      exact ⟨hnoted.generation, hnoted.state, hnoted.mark_le, hnoted.granted, hnoted.admitted,
        hnoted.atGrant⟩
  | granted generation =>
      obtain ⟨hgeneration, hstate⟩ := hgranted generation rfl
      have hnoted : Sound (r.note .granted) := hr.note rfl
      have hnow : History.upTo (.granted :: r.history) (r.history.length + 1) =
          .granted :: r.history := History.upTo_length (.granted :: r.history)
      refine ⟨hnoted.generation, hnoted.state, ?_, ?_, ?_, ?_⟩
      · intro t ht
        rcases List.mem_cons.mp ht with rfl | ht
        · exact Nat.le_refl _
        · exact hnoted.mark_le t ht
      · intro t ht
        rcases List.mem_cons.mp ht with rfl | ht
        · rw [hgeneration]
          exact hnoted.generation.trans (congrArg History.changes hnow.symm)
        · exact hnoted.granted t ht
      · intro t ht
        rcases List.mem_cons.mp ht with rfl | ht
        · intro hopened
          exact hstate ((hnoted.state.trans (congrArg History.state hnow.symm)).trans hopened)
        · exact hnoted.admitted t ht
      · intro t ht
        rcases List.mem_cons.mp ht with rfl | ht
        · exact congrArg List.head? hnow
        · exact hnoted.atGrant t ht

/-- Settling a ticket records its outcome or, when it is stale, nothing. -/
theorem Sound.settle {r : Run} (hr : Sound r) (i : Nat) (t : Ticket) (how : Completion) :
    Sound (r.settle i t how) := by
  have hnoted : Sound ((r.drop i).note (.settled t.mark (r.outcome t how))) :=
    (hr.drop i).note rfl
  by_cases hlive : r.breaker.generation = t.permit.generation
  · exact hnoted.adopt (Breaker.recorded_alike _ _ _) (Breaker.complete_leads hlive _ _)
  · unfold Run.settle
    rw [Breaker.complete_stale hlive]
    exact hnoted.adopt (Breaker.Alike.refl _) .stays

/-- Every act keeps the breaker and the tickets as the history says. -/
theorem Sound.act {r : Run} (hr : Sound r) (a : Act) : Sound (r.act a) := by
  cases a with
  | wait d =>
      exact ⟨hr.generation, hr.state, hr.mark_le, hr.granted, hr.admitted, hr.atGrant⟩
  | attempt =>
      have hchecked : Sound (r.adopt (r.breaker.check r.now)) :=
        hr.adopt (Breaker.Alike.refl _) (Breaker.check_leads _ _)
      have hdecided := hchecked.congr (Breaker.decideNow_alike _ r.now)
      rw [act_attempt]
      refine hdecided.answer ?_
      intro generation hgranted
      have halike := Breaker.decideNow_alike (r.breaker.check r.now).breaker r.now
      obtain ⟨hgeneration, hstate⟩ := Breaker.decideNow_granted hgranted
      exact ⟨hgeneration.trans halike.generation.symm, fun h => hstate (halike.state.symm.trans h)⟩
  | handOver i => exact hr.handOver i
  | countRejection =>
      simp only [Run.act]
      split
      · have hcounted := hr.congr (Breaker.countRejection_alike _)
        exact ⟨hcounted.generation, hcounted.state, hr.mark_le, hr.granted, hr.admitted, hr.atGrant⟩
      · exact hr
  | settle i how =>
      simp only [Run.act]
      split
      · exact hr
      · exact hr.settle i _ how
  | giveBack i =>
      simp only [Run.act]
      split
      · exact hr
      · exact ((hr.drop i).note rfl).congr (Breaker.release_alike _ _)
  | check => exact hr.adopt (Breaker.Alike.refl _) (Breaker.check_leads _ _)
  | forceOpen =>
      have hnoted : Sound (r.note .forced) := hr.note rfl
      obtain ⟨marked, hmarked, _, hleads⟩ := Breaker.forceOpen_leads r.breaker r.now
      exact hnoted.adopt hmarked hleads
  | reset =>
      refine hr.extend ?_ rfl
      rw [History.changes_cons_change rfl, ← hr.generation]
      rfl

/-- In every run the generation counts the changes, the state is the one that the history tells,
and every ticket carries the generation of its grant. -/
theorem Reachable.sound {config : Config} {r : Run} (hr : Reachable config r) : Sound r :=
  hr.induction (fun name draws instant => sound_start name config draws instant)
    fun _ a _ hsound => hsound.act a

end Run

end FailFast
