import FailFast.Proofs.Run.Deadline
import FailFast.Proofs.Usage.Executions
import FailFast.Proofs.Usage.Passive

/-!
# Permits that are not used

An attempt applies the transitions due, as a check does, and then takes a permit if it is granted.
Handing the permit back puts it where it was taken from: a change of state in between would have
made the permit stale, and without one the trial still has the place for it.  So a caller that hands
its permit back, however late, leaves behind what a check at the time of the attempt would have left
behind.  The end of a call is such a return if the classifier ignores its error, and so is the
dropping of a call that still runs.  An attempt that is refused takes nothing and is counted.

Main results:

- Theorem `Breaker.release_decideNow`: handing back a permit undoes the decision that granted it.
- Theorem `Usage.acquire_undone` and theorem `Usage.acquire_uncounted`: an attempt is a check and
  the taking of a permit that can be handed back, or a check and the count of a rejection.
- Theorem `Usage.unused_permit_leaves_no_trace`: what is left behind by an attempt, by a call and by
  an asynchronous call that come to nothing.
-/

namespace FailFast

/-! ## Attempts without an end -/

namespace Breaker

variable {b : Breaker} {now : Nat}

/-- Handing back a permit undoes the decision that granted it. -/
theorem release_decideNow {generation : Nat} (h : (b.decideNow now).2 = .granted generation) :
    (b.decideNow now).1.release generation = b := by
  rw [(decideNow_granted h).1]
  unfold decideNow at h ⊢
  cases hphase : b.phase with
  | closed => simp [release, hphase]
  | opened period => simp [hphase] at h
  | halfOpen trial =>
      by_cases hleft : 0 < trial.permits
      · have hback : trial.permits - 1 + 1 = trial.permits := by omega
        simp only [hleft, if_true, take, release, ne_eq, not_true, if_false, hback]
        rw [← hphase]
      · simp [hphase, hleft] at h

/-- A decision against a caller changes nothing. -/
theorem decideNow_rejected {state : State} {retryAfter : Duration}
    (h : (b.decideNow now).2 = .rejected state retryAfter) : (b.decideNow now).1 = b := by
  unfold decideNow at h ⊢
  cases hphase : b.phase with
  | closed => rfl
  | opened period => rfl
  | halfOpen trial =>
      by_cases hleft : 0 < trial.permits
      · simp [hphase, hleft] at h
      · simp [hleft]

/-- A granted attempt is a check, as far as it tells, and its permit takes it back to that check. -/
theorem attempt_undone {m : Moved} {generation : Nat}
    (h : b.attempt now = (m, .granted generation)) :
    m.transition = (b.check now).transition ∧ m.breaker.state = (b.check now).breaker.state ∧
      m.breaker.release generation = (b.check now).breaker := by
  have hgranted : ((b.check now).breaker.decideNow now).2 = .granted generation :=
    congrArg Prod.snd h
  have hmoved : ⟨((b.check now).breaker.decideNow now).1, (b.check now).transition⟩ = m :=
    congrArg Prod.fst h
  subst hmoved
  exact ⟨rfl, (decideNow_alike _ now).state, release_decideNow hgranted⟩

/-- A refused attempt is a check. -/
theorem attempt_unmoved {m : Moved} {state : State} {retryAfter : Duration}
    (h : b.attempt now = (m, .rejected state retryAfter)) : m = b.check now := by
  have hrejected : ((b.check now).breaker.decideNow now).2 = .rejected state retryAfter :=
    congrArg Prod.snd h
  have hmoved : ⟨((b.check now).breaker.decideNow now).1, (b.check now).transition⟩ = m :=
    congrArg Prod.fst h
  rw [← hmoved, decideNow_rejected hrejected]

end Breaker

/-- An error that the classifier ignores only hands back the permit of its call. -/
theorem Circuit.fault_ignored {c : Circuit} {classifier : Classifier} {p : Permit} {fault : Fault}
    {instant : Instant} (hclassifier : c.classifier = some classifier)
    (hignored : classifier.records c.breaker.name fault (p.elapsed instant) = false) :
    c.fault instant p fault =
      ({ c with breaker := c.breaker.release p.generation }, instant,
        [.ignored c.breaker.name], ()) := by
  simp only [Circuit.fault, perform, Scene.fault, scene, hclassifier, hignored]
  rfl

namespace Usage

/-- The classifier ignores an error of a call that took as long as given. -/
def Ignores (u : Usage) (fault : Fault) (took : Duration) : Prop :=
  ∃ classifier, u.circuit.classifier = some classifier ∧
    classifier.records u.circuit.breaker.name fault took = false

/-- A permit that an attempt was granted can be handed back: the attempt told what a check tells,
and the return of the permit leads to the circuit that a check leads to. -/
structure Returnable (u : Usage) (p : Permit) : Prop where
  permits : (u.use .acquire).permits = p :: u.permits
  instant : (u.use .acquire).instant = u.instant
  grantedAt : p.grantedAt = u.instant
  name : (u.use .acquire).circuit.breaker.name = u.circuit.breaker.name
  told : u.notes .acquire = u.notes .check
  check : u.use .check =
    u.put ((u.use .acquire).circuit.breaker.release p.generation)

namespace Returnable

variable {u : Usage} {p : Permit} (h : u.Returnable p)

include h

/-- The return of the permit puts the circuit of the check in the place of the present one. -/
theorem circuit_eq :
    { (u.use .acquire).circuit with
      breaker := (u.use .acquire).circuit.breaker.release p.generation } =
      (u.use .check).circuit := by
  rw [use_circuit, h.check]
  rfl

/-- So it does whenever it happens. -/
theorem release (instant : Instant) :
    (u.use .acquire).circuit.release instant p = ((u.use .check).circuit, instant, [], ()) := by
  rw [← h.circuit_eq]
  rfl

/-- And so does the end of the call with an error that the classifier ignores. -/
theorem fault {fault : Fault} {instant : Instant}
    (hignored : u.Ignores fault ⟨instant - u.instant⟩) :
    (u.use .acquire).circuit.fault instant p fault =
      ((u.use .check).circuit, instant, [.ignored u.circuit.breaker.name], ()) := by
  rcases hignored with ⟨classifier, hclassifier, hrecords⟩
  have hsame : (u.use .acquire).circuit.classifier = some classifier := by
    rw [use_circuit]
    exact hclassifier
  rw [← h.grantedAt, ← h.name] at hrecords
  rw [Circuit.fault_ignored hsame hrecords, h.circuit_eq, h.name]

/-- Using up the permit after a while, by an operation that leads to the circuit of the check. -/
theorem spend (d : Duration) (operation : Permit → Returned Unit) {notes : Journal}
    (hoperation : operation p =
      ((u.use .check).circuit, ((u.use .acquire).use (.wait d)).instant, notes, ())) :
    ((u.use .acquire).use (.wait d)).spend 0 operation =
      ((u.use .check).use (.wait d), notes, .nothing) := by
  have hkept : ((u.use .acquire).use (.wait d)).permits = p :: u.permits := h.permits
  have hheld : ((u.use .acquire).use (.wait d)).permits[0]? = some p := by
    rw [hkept]
    rfl
  have hrest : ((u.use .acquire).use (.wait d)).permits.eraseIdx 0 =
      ((u.use .check).use (.wait d)).permits := by
    rw [hkept, h.check]
    rfl
  have hinstant : ((u.use .acquire).use (.wait d)).instant =
      ((u.use .check).use (.wait d)).instant := by
    show (u.use .acquire).instant + d.nanos = (u.use .check).instant + d.nanos
    rw [h.instant, h.check]
    rfl
  simp only [Usage.spend, hheld, hoperation, hinstant, hrest]
  rfl

end Returnable

section Unused

variable {u : Usage} (hpassive : u.circuit.callbacks.IsPassive)

include hpassive

/-- The permit of a granted attempt can be handed back. -/
theorem acquire_undone (hgranted : u.reply .acquire = .granted) : ∃ p, u.Returnable p := by
  cases hattempt : u.circuit.breaker.attempt u.now with
  | mk m verdict =>
      cases verdict with
      | rejected state retryAfter =>
          rw [reply_acquire, hattempt] at hgranted
          cases hgranted
      | granted generation =>
          have hstep := step_acquire_granted hpassive hattempt
          rcases Breaker.attempt_undone hattempt with ⟨htransition, hstate, hrelease⟩
          have hcheck : u.use .check = u.put (m.breaker.release generation) := by
            rw [use, step_check hpassive, hrelease]
          refine ⟨⟨generation, u.instant⟩, ?_, ?_, rfl, ?_, ?_, ?_⟩
          · rw [use, hstep]
          · rw [use, hstep]
            rfl
          · rw [use, hstep, put_breaker, ← (m.breaker.release_alike generation).name, hrelease]
            exact (u.circuit.breaker.check_leads u.now).name
          · rw [notes, notes, hstep, step_check hpassive]
            simp only [Callbacks.announced, htransition, hstate]
          · rw [hcheck, use, hstep]
            rfl

/-- A refused attempt tells what a check tells and that it was refused, and it leads to what the
check leads to with one more rejection. -/
theorem acquire_uncounted {r : Rejection} (hrejected : u.reply .acquire = .rejected r) :
    u.use .acquire = (u.use .check).put (u.use .check).circuit.breaker.countRejection ∧
      u.notes .acquire = u.notes .check ++ [.rejected r] := by
  cases hattempt : u.circuit.breaker.attempt u.now with
  | mk m verdict =>
      cases verdict with
      | granted generation =>
          rw [reply_acquire, hattempt] at hrejected
          cases hrejected
      | rejected state retryAfter =>
          have hunmoved := Breaker.attempt_unmoved hattempt
          have hstep := step_acquire_rejected hpassive hattempt
          rw [reply, hstep] at hrejected
          cases hrejected
          rw [use, use, notes, notes, hstep, step_check hpassive, hunmoved]
          exact ⟨rfl, rfl⟩

end Unused

end Usage

/-! ## Calls that come to nothing -/

namespace Session

/-- In a session a circuit was put in the place of another one.  Nothing else of the fleet changed,
and no transition was told or published. -/
def PutsBack (s after : Session) (i : Nat) (c : Circuit) : Prop :=
  ∃ notes : Journal, notes.transitions = [] ∧
    after.fleet =
      { s.fleet with
        circuits := s.fleet.circuits.set i c
        journal := s.fleet.journal ++ notes }

/-- An operation on a circuit that tells of no transition puts its result in the place. -/
theorem putsBack_change {s : Session} {i : Nat} {c after : Circuit} {notes : Journal}
    (operation : Circuit → Instant → Returned Unit) (hc : s.circuit? i = some c)
    (hoperation : operation c s.fleet.instant = (after, s.fleet.instant, notes, ()))
    (hsilent : notes.transitions = []) : s.PutsBack (s.change i operation) i after := by
  have hcircuit : s.fleet.circuits[i]? = some c := hc
  refine ⟨notes, hsilent, ?_⟩
  simp [change, Fleet.change, Fleet.perform, hcircuit, hoperation, hsilent, Channel.publish]

/-- A call was admitted to a circuit in use, and it is under way in the session `t`.  If no one else
uses the circuit before the call ends, it puts back what a check at the time of the admission would
have left, provided that it ends with an error that the classifier ignores or is dropped. -/
structure Forgets (s : Session) (scope : Scope) (service : Option String) (u : Usage) (t : Session)
    (i : Nat) (timeout : Option Duration) : Prop where
  call : ∀ {α : Type} (steps : StepsRunner α) (fault : Fault) (took : Duration)
    (inside : List (Step α)) (x : Session),
    (steps { t with fleet := t.fleet.wait took } inside).1 = x →
    x.circuit? i = some (u.use .acquire).circuit →
    u.Ignores fault ⟨x.fleet.instant - u.instant⟩ →
    x.PutsBack (s.call steps scope service (.error fault) took inside).1 i (u.use .check).circuit
  execution : ∀ {α : Type} (steps : StepsRunner α) (job : Job α) (fault : Fault),
    job.service = service → job.result = .error fault →
    ∀ d, t.InTime timeout job d → ∀ worlds, t.Arrives (t.timer + d) worlds → ∀ x : Session,
    (steps (t.elapse worlds) job.inside).1 = x →
    x.circuit? i = some (u.use .acquire).circuit →
    u.Ignores fault ⟨x.fleet.instant - u.instant⟩ →
    x.PutsBack (s.execution steps scope job worlds).1 i (u.use .check).circuit
  cancelled : ∀ {α : Type} (steps : StepsRunner α) (job : Job α), job.service = service →
    ∀ worlds p, (s.execution steps scope job worlds).2 = .pending p →
    ∀ x : Session, x.circuit? i = some (u.use .acquire).circuit →
    x.PutsBack (x.dropCall (.pending p)).1 i (u.use .check).circuit

section Forgotten

variable {s t : Session} {scope : Scope} {service : Option String} {u : Usage} {i : Nat}
  {permit : Permit} {timeout : Option Duration}

/-- The end of a call with an error that the classifier ignores. -/
theorem putsBack_conclude {α : Type} (hp : u.Returnable permit) (steps : StepsRunner α)
    {fault : Fault} {inside : List (Step α)} {x : Session} (hx : (steps t inside).1 = x)
    (hcircuit : x.circuit? i = some (u.use .acquire).circuit)
    (hignored : u.Ignores fault ⟨x.fleet.instant - u.instant⟩) :
    x.PutsBack (t.conclude steps i permit (.error fault) inside).1 i (u.use .check).circuit := by
  have hputs := putsBack_change (fun c instant => c.fault instant permit fault) hcircuit
    (hp.fault hignored) rfl
  subst hx
  exact hputs

/-- A call that was admitted with a permit that can be handed back leaves no trace. -/
theorem Admits.forgets (h : s.Admits scope service t i permit timeout) (hp : u.Returnable permit) :
    s.Forgets scope service u t i timeout where
  call := by
    intro α steps fault took inside x hx hcircuit hignored
    rw [call_took, h.call]
    exact putsBack_conclude hp _ hx hcircuit hignored
  execution := by
    intro α steps job fault hservice hresult d hd worlds harrives x hx hcircuit hignored
    rw [h.execution_inTime steps hservice hd harrives, hresult]
    exact putsBack_conclude hp steps hx hcircuit hignored
  cancelled := by
    intro α steps job hservice worlds p hpending x hcircuit
    rw [((h.agrees.cancelled steps job hservice worlds p hpending).2 x _ hcircuit).1]
    exact putsBack_change (fun c instant => c.release instant permit) hcircuit (hp.release _) rfl

end Forgotten

end Session

namespace Usage

/-- An attempt whose permit is handed back leaves what a check at its time would have left, however
late that is: all of the breaker, and what was told of it.  It is the same where the permit belongs
to a call that ends with an error which the classifier ignores, or to one that is dropped.  An
attempt that is refused leaves that with one more rejection. -/
theorem unused_permit_leaves_no_trace {config : Config} {u : Usage} (hu : u.Reachable config)
    (hpassive : u.circuit.callbacks.IsPassive) :
    (u.reply .acquire = .granted →
      u.notes .acquire = u.notes .check ∧
      (∀ d, ((u.use .acquire).use (.wait d)).step (.release 0) =
        ((u.use .check).use (.wait d), [], .nothing)) ∧
      (∀ d fault, u.Ignores fault d →
        ((u.use .acquire).use (.wait d)).step (.fault 0 fault) =
          ((u.use .check).use (.wait d), [.ignored u.circuit.breaker.name], .nothing)) ∧
      ∀ (s : Session) (scope : Session.Scope) (service : Option String),
        s.Reaches scope service u → ∃ t i, t.Hosts i (u.use .acquire) ∧
          s.Forgets scope service u t i config.callTimeout) ∧
    ∀ r, u.reply .acquire = .rejected r →
      u.use .acquire = (u.use .check).put (u.use .check).circuit.breaker.countRejection ∧
      u.notes .acquire = u.notes .check ++ [.rejected r] := by
  refine ⟨?_, fun r hrejected => acquire_uncounted hpassive hrejected⟩
  intro hgranted
  rcases acquire_undone hpassive hgranted with ⟨p, hp⟩
  refine ⟨hp.told, ?_, ?_, ?_⟩
  · intro d
    exact hp.spend d
      (fun p => (u.use .acquire).circuit.release ((u.use .acquire).use (.wait d)).instant p)
      (hp.release _)
  · intro d fault hignored
    have htook : (⟨((u.use .acquire).use (.wait d)).instant - u.instant⟩ : Duration) = d := by
      show (⟨(u.use .acquire).instant + d.nanos - u.instant⟩ : Duration) = d
      rw [hp.instant, Nat.add_sub_cancel_left]
    rw [← htook] at hignored
    exact hp.spend d
      (fun p => (u.use .acquire).circuit.fault ((u.use .acquire).use (.wait d)).instant p fault)
      (hp.fault hignored)
  · intro s scope service hs
    rcases hs.admits hu hgranted with ⟨t, i, permit, hhosts, hpermits, hadmits⟩
    have hsame : permit = p := by
      rw [hp.permits] at hpermits
      exact (List.cons.inj hpermits).1.symm
    subst hsame
    exact ⟨t, i, hhosts, hadmits.forgets hp⟩

/-- A trial with a limit of 10 ms and one permit left; the classifier ignores codes below 500. -/
def lastPermit : Usage :=
  (start "db" (.limited (.ofMillis 10)) .halves .none (some (.codesFrom 500)) 0).uses
    [.acquire, .complete 0 .failed, .wait (.ofMillis 5), .acquire]

/-- A call takes the permit and ends after the deadline of the trial with an error that does not
count.  The trial has its permit again. -/
theorem last_permit_comes_back :
    ((lastPermit.use .acquire).use (.wait (.ofMillis 20))).step (.fault 0 (.code 404)) =
      ((lastPermit.use .check).use (.wait (.ofMillis 20)), [.ignored "db"], .nothing) ∧
    (lastPermit.use .acquire).circuit.breaker.phase = .halfOpen ⟨5, 0, 0, 0, 0⟩ ∧
    (lastPermit.use .check).circuit.breaker.phase = .halfOpen ⟨5, 1, 0, 0, 0⟩ := by
  have hreachable : lastPermit.Reachable (.limited (.ofMillis 10)) :=
    Reachable.uses (.start "db" .halves .none (some (.codesFrom 500)) 0) _
  have hpassive : lastPermit.circuit.callbacks.IsPassive := by
    rw [lastPermit, uses_callbacks]
    exact Or.inl rfl
  have hgranted : lastPermit.reply .acquire = .granted := by decide +kernel
  have hignored : lastPermit.Ignores (.code 404) (.ofMillis 20) :=
    ⟨.codesFrom 500, by rw [lastPermit, uses_circuit]; rfl, by decide +kernel⟩
  have htrace := (unused_permit_leaves_no_trace hreachable hpassive).1 hgranted
  have hended := htrace.2.2.1 (.ofMillis 20) (.code 404) hignored
  have hname : lastPermit.circuit.breaker.name = "db" := by decide +kernel
  rw [hname] at hended
  exact ⟨hended, by decide +kernel, by decide +kernel⟩

end Usage

end FailFast
