import FailFast.Proofs.Run.Generations

/-!
# Effects of acts

However many kinds of acts there are, an act does one of five things to the breaker.  It leaves the
breaker in its phase, it applies the transition due, it reports an outcome that counts, it forces
the circuit open, or it resets the circuit.  What is done with a stale permit is of the first kind:
the permit leaves the hands of its holder, and nothing else happens.

Properties of runs that are not about single permits are proved from these five cases and never by
going through the acts again.

Main results:

- Theorem `Run.Sound.settle_stale` and theorem `Run.Sound.giveBack_stale`: a stale permit only
  leaves the hands of its holder.
- Theorem `Run.Sound.act_effect`: every act has one of the five effects.
- Theorem `Run.Sound.act_accepted`: an outcome that counts is recorded in the current generation.
- Theorem `Run.Sound.act_period`: the outcomes of a period grow by those that count.
-/

namespace FailFast

/-! ## Histories in which nothing happens -/

/-- The next history holds at most one more incident, and that is no change and no outcome that
counts. -/
def History.GoesOn (h next : History) : Prop :=
  next = h ∨ ∃ i : Incident, next = i :: h ∧ i.isChange = false ∧ h.gained i = []

namespace History

/-- A history goes on as it is. -/
theorem GoesOn.refl (h : History) : h.GoesOn h :=
  Or.inl rfl

/-- The accepted outcomes stay the same. -/
theorem GoesOn.acceptedSince_eq {h next : History} (hnext : h.GoesOn next)
    {starts : Incident → Bool} (hstarts : ∀ i, i.isChange = false → starts i = false) :
    next.acceptedSince starts = h.acceptedSince starts := by
  rcases hnext with rfl | ⟨i, rfl, hquiet, hgained⟩
  · rfl
  · rw [acceptedSince_cons (hstarts i hquiet), hgained, List.append_nil]

/-- So do those of the reference. -/
theorem GoesOn.reference_eq {h next : History} (hnext : h.GoesOn next) :
    next.reference = h.reference := by
  apply hnext.acceptedSince_eq
  intro i hi
  cases i with
  | moved t => cases hi
  | reset t => cases hi
  | _ => rfl

/-- And those of the period. -/
theorem GoesOn.period_eq {h next : History} (hnext : h.GoesOn next) : next.period = h.period :=
  hnext.acceptedSince_eq fun _ hi => hi

/-- There is no change. -/
theorem GoesOn.changes_eq {h next : History} (hnext : h.GoesOn next) :
    next.changes = h.changes := by
  rcases hnext with rfl | ⟨i, rfl, hquiet, _⟩
  · rfl
  · exact changes_cons hquiet h

end History

namespace Run

/-! ## Permits that are settled or handed back -/

/-- A ticket at an index is one of the tickets. -/
theorem mem_tickets {r : Run} {i : Nat} {t : Ticket} (ht : r.tickets[i]? = some t) :
    t ∈ r.tickets :=
  List.mem_of_getElem? ht

/-- Settling a stale ticket only takes it from its holder. -/
theorem Sound.settle_stale {r : Run} (hr : Sound r) {i : Nat} {t : Ticket}
    (ht : r.tickets[i]? = some t) (hstale : r.history.changedSince t.mark = true)
    (how : Completion) :
    r.act (.settle i how) = (r.drop i).note (.settled t.mark (r.outcome t how)) := by
  have hne := (hr.generation_ne_iff (mem_tickets ht)).mpr hstale
  rw [act_settle ht, Run.settle, Breaker.complete_stale hne]
  rfl

/-- Handing back a stale ticket only takes it from its holder. -/
theorem Sound.giveBack_stale {r : Run} (hr : Sound r) {i : Nat} {t : Ticket}
    (ht : r.tickets[i]? = some t) (hstale : r.history.changedSince t.mark = true) :
    r.act (.giveBack i) = (r.drop i).note (.returned t.mark) := by
  have hne := (hr.generation_ne_iff (mem_tickets ht)).mpr hstale
  rw [act_giveBack ht, Run.giveBack, Breaker.release_stale hne]
  rfl

/-- Settling any other ticket records its outcome in the current generation. -/
theorem Sound.settle_accepted {r : Run} (hr : Sound r) {i : Nat} {t : Ticket}
    (ht : r.tickets[i]? = some t) (hsame : r.history.changedSince t.mark = false)
    (how : Completion) :
    r.act (.settle i how) =
      ((r.drop i).note (.settled t.mark (r.outcome t how))).adopt
        (r.breaker.complete r.now r.breaker.generation (r.outcome t how)) := by
  rw [act_settle ht, Run.settle, hr.generation_eq (mem_tickets ht) hsame]

/-! ## The five effects -/

/-- What an act does to the breaker and what the history says of it. -/
inductive Effect (r : Run) (a : Act) : Prop where
  /-- The breaker stays in its phase. -/
  | quiet (hnone : r.accepts? a = none) (hbreaker : r.breaker.Alike (r.act a).breaker)
      (hwindow : (r.act a).breaker.window = r.breaker.window)
      (hhistory : r.history.GoesOn (r.act a).history)
  /-- The transition due is applied. -/
  | due (hnone : r.accepts? a = none)
      (hbreaker : (r.breaker.check r.now).breaker.Alike (r.act a).breaker)
      (hwindow : (r.act a).breaker.window = (r.breaker.check r.now).breaker.window)
      (hhistory : (r.adopt (r.breaker.check r.now)).history.GoesOn (r.act a).history)
  /-- An outcome that counts is reported. -/
  | accepted (mark : Nat) (o : Outcome) (haccepts : r.accepts? a = some o)
      (hsame : r.history.changedSince mark = false)
      (hbreaker : (r.act a).breaker = (r.breaker.complete r.now r.breaker.generation o).breaker)
      (hhistory : (r.act a).history = ((r.note (.settled mark o)).adopt
        (r.breaker.complete r.now r.breaker.generation o)).history)
  | forced (ha : a = .forceOpen)
      (hbreaker : (r.act a).breaker = (r.breaker.forceOpen r.now).breaker)
      (hhistory : (r.act a).history =
        ((r.note .forced).adopt (r.breaker.forceOpen r.now)).history)
  | cleared (ha : a = .reset)
      (hbreaker : (r.act a).breaker = (r.breaker.reset r.now).breaker)
      (hhistory : (r.act a).history = .reset (r.breaker.reset r.now).transition :: r.history)

/-- Settling a ticket has no effect beyond the ticket, or it is that of an outcome that counts. -/
theorem Sound.settle_effect {r : Run} (hr : Sound r) (i : Nat) (how : Completion) :
    r.Effect (.settle i how) := by
  cases ht : r.tickets[i]? with
  | none =>
      refine .quiet (accepts?_settle_none ht how) ?_ ?_ ?_
      · rw [act_settle_none ht]
        exact Breaker.Alike.refl _
      · rw [act_settle_none ht]
      · rw [act_settle_none ht]
        exact History.GoesOn.refl _
  | some t =>
      have haccepts := accepts?_settle ht how
      cases hchanged : r.history.changedSince t.mark with
      | true =>
          rw [hchanged, if_pos rfl] at haccepts
          refine .quiet haccepts ?_ ?_ ?_
          · rw [hr.settle_stale ht hchanged]
            exact Breaker.Alike.refl _
          · rw [hr.settle_stale ht hchanged]
            rfl
          · rw [hr.settle_stale ht hchanged]
            exact Or.inr ⟨_, rfl, rfl, if_pos hchanged⟩
      | false =>
          rw [hchanged, if_neg Bool.false_ne_true] at haccepts
          refine .accepted t.mark _ haccepts hchanged ?_ ?_
          · rw [hr.settle_accepted ht hchanged]
            rfl
          · rw [hr.settle_accepted ht hchanged]
            rfl

/-- Handing back a ticket has no effect beyond the permit. -/
theorem giveBack_effect (r : Run) (i : Nat) : r.Effect (.giveBack i) := by
  cases ht : r.tickets[i]? with
  | none =>
      refine .quiet rfl ?_ ?_ ?_
      · rw [act_giveBack_none ht]
        exact Breaker.Alike.refl _
      · rw [act_giveBack_none ht]
      · rw [act_giveBack_none ht]
        exact History.GoesOn.refl _
  | some t =>
      refine .quiet rfl ?_ ?_ ?_
      · rw [act_giveBack ht]
        exact r.breaker.release_alike t.permit.generation
      · rw [act_giveBack ht]
        exact r.breaker.release_window t.permit.generation
      · rw [act_giveBack ht]
        exact Or.inr ⟨_, rfl, rfl, rfl⟩

/-- An answer is one more incident. -/
theorem answer_goesOn (r : Run) (verdict : Breaker.Verdict) :
    r.history.GoesOn (r.answer verdict).history := by
  cases verdict with
  | granted generation => exact Or.inr ⟨_, rfl, rfl, rfl⟩
  | rejected state retryAfter => exact Or.inr ⟨_, rfl, rfl, rfl⟩

/-- Every act has one of the five effects. -/
theorem Sound.act_effect {r : Run} (hr : Sound r) (a : Act) : r.Effect a := by
  cases a with
  | wait d => exact .quiet rfl (Breaker.Alike.refl _) rfl (History.GoesOn.refl _)
  | attempt =>
      refine .due rfl ?_ ?_ ?_
      · rw [act_attempt, answer_breaker]
        exact Breaker.decideNow_alike _ r.now
      · rw [act_attempt, answer_breaker]
        exact Breaker.decideNow_window _ r.now
      · rw [act_attempt]
        exact answer_goesOn _ _
  | handOver i => exact .quiet rfl (Breaker.Alike.refl _) rfl (History.GoesOn.refl _)
  | countRejection =>
      by_cases hpending : 0 < r.uncounted
      · have hcounted : r.act .countRejection =
            { r with breaker := r.breaker.countRejection, uncounted := r.uncounted - 1 } :=
          if_pos hpending
        refine .quiet rfl ?_ ?_ ?_
        · rw [hcounted]
          exact Breaker.countRejection_alike _
        · rw [hcounted]
          rfl
        · rw [hcounted]
          exact History.GoesOn.refl _
      · have hidle : r.act .countRejection = r := if_neg hpending
        refine .quiet rfl ?_ ?_ ?_
        · rw [hidle]
          exact Breaker.Alike.refl _
        · rw [hidle]
        · rw [hidle]
          exact History.GoesOn.refl _
  | settle i how => exact hr.settle_effect i how
  | giveBack i => exact r.giveBack_effect i
  | check => exact .due rfl (Breaker.Alike.refl _) rfl (History.GoesOn.refl _)
  | forceOpen => exact .forced rfl rfl rfl
  | reset => exact .cleared rfl rfl rfl

/-! ## What follows from the effect -/

/-- The circuit keeps its name. -/
theorem Sound.act_name {r : Run} (hr : Sound r) (a : Act) :
    (r.act a).breaker.name = r.breaker.name := by
  cases hr.act_effect a with
  | quiet _ hbreaker => exact hbreaker.name
  | due _ hbreaker => exact hbreaker.name.trans (r.breaker.check_leads r.now).name
  | accepted mark o _ _ hbreaker =>
      rw [hbreaker]
      exact (Breaker.complete_leads rfl r.now o).name
  | forced _ hbreaker =>
      obtain ⟨marked, hmarked, _, hleads⟩ := r.breaker.forceOpen_leads r.now
      rw [hbreaker]
      exact hleads.name.trans hmarked.name
  | cleared _ hbreaker =>
      rw [hbreaker]
      rfl

/-- Through all acts. -/
theorem Sound.acts_name {r : Run} (hr : Sound r) (as : List Act) :
    (r.acts as).breaker.name = r.breaker.name := by
  induction as generalizing r with
  | nil => rfl
  | cons a rest ih => exact (ih (hr.act a)).trans (hr.act_name a)

/-- An outcome that counts is recorded in the current generation. -/
theorem Sound.act_accepted {r : Run} (hr : Sound r) {a : Act} {o : Outcome}
    (haccepts : r.accepts? a = some o) :
    (r.act a).breaker = (r.breaker.complete r.now r.breaker.generation o).breaker ∧
    ∃ mark, (r.act a).history = ((r.note (.settled mark o)).adopt
      (r.breaker.complete r.now r.breaker.generation o)).history := by
  cases hr.act_effect a with
  | quiet hnone =>
      rw [hnone] at haccepts
      cases haccepts
  | due hnone =>
      rw [hnone] at haccepts
      cases haccepts
  | accepted mark p hp _ hbreaker hhistory =>
      obtain rfl : p = o := Option.some.inj (hp.symm.trans haccepts)
      exact ⟨hbreaker, mark, hhistory⟩
  | forced ha =>
      subst ha
      cases haccepts
  | cleared ha =>
      subst ha
      cases haccepts

/-- Taking over what an operation made of the breaker tells of its transition. -/
theorem adopt_transitions (r : Run) (m : Moved) :
    (r.adopt m).history.transitions = m.transition.toList ++ r.history.transitions := by
  unfold adopt
  cases m.transition <;> rfl

/-- An answer to an attempt tells of no transition. -/
theorem answer_transitions (r : Run) (verdict : Breaker.Verdict) :
    (r.answer verdict).history.transitions = r.history.transitions := by
  cases verdict <;> rfl

/-- Where nothing changed, nothing is added to the history. -/
theorem adopt_history {r : Run} {m : Moved}
    (hsame : (r.adopt m).history.changes = r.history.changes) :
    (r.adopt m).history = r.history := by
  unfold adopt at hsame ⊢
  cases htransition : m.transition with
  | none => rfl
  | some t =>
      simp only [htransition] at hsame
      rw [History.changes_cons_change rfl] at hsame
      omega

/-- As long as nothing changes, the outcomes of the period are followed by the one that an act
reports, if it counts. -/
theorem Sound.act_period {r : Run} (hr : Sound r) {a : Act}
    (hsame : (r.act a).breaker.generation = r.breaker.generation) :
    (r.act a).history.period = r.history.period ++ (r.accepts? a).toList := by
  have hchanges : (r.act a).history.changes = r.history.changes := by
    rw [← (hr.act a).generation, hsame, hr.generation]
  cases hr.act_effect a with
  | quiet hnone _ _ hhistory =>
      rw [hnone, hhistory.period_eq]
      exact (List.append_nil _).symm
  | due hnone _ _ hhistory =>
      rw [hhistory.changes_eq] at hchanges
      rw [hnone, hhistory.period_eq, adopt_history hchanges]
      exact (List.append_nil _).symm
  | accepted mark o haccepts hunchanged _ hhistory =>
      have hquiet : Incident.isChange (.settled mark o) = false := rfl
      rw [hhistory, ← History.changes_cons hquiet] at hchanges
      rw [hhistory, adopt_history hchanges, haccepts]
      refine (History.period_settled _ _ _).trans ?_
      rw [hunchanged]
      rfl
  | forced ha _ hhistory =>
      have hquiet : Incident.isChange .forced = false := rfl
      rw [hhistory, ← History.changes_cons hquiet] at hchanges
      rw [hhistory, adopt_history hchanges, ha]
      exact History.acceptedSince_cons rfl r.history
  | cleared ha _ hhistory =>
      rw [hhistory, History.changes_cons_change rfl] at hchanges
      omega

end Run

end FailFast
