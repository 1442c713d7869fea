import FailFast.Proofs.Breaker
import FailFast.Proofs.Journal
import FailFast.Proofs.Usage

/-!
# Circuits in use with passive callbacks

Callbacks that only watch leave the breaker as the operation made it.  Then each use of a circuit is
a single operation of the breaker, and what is noted of it is its transition.

Uses that use up a permit differ only in what they report: an outcome, or nothing where the permit
is handed back.

Main results:

- Theorem `Callbacks.announce_of_passive`: telling passive callbacks is noting that they were told.
- Theorem `Usage.step_acquire`, theorem `Usage.step_check`, theorem `Usage.step_forceOpen`,
  theorem `Usage.step_reset` and theorem `Usage.step_settle`: what each use does.
- Theorem `Usage.use_instant_eq`: no use but a wait takes any time.
- Theorem `Usage.movesOnce`: by itself a use makes one change of state or none, and tells of it.
-/

namespace FailFast

/-! ## Passive callbacks -/

namespace Callbacks

/-- Callbacks that only watch: no level of hooks acts, or no hook does anything. -/
def IsPassive (c : Callbacks) : Prop :=
  c.depth = 0 ∨ ∀ target hook, c.hook? target = some hook → ∀ j, hook.reactions j = []

/-- What is noted of an operation when callbacks only watch. -/
def announced (c : Callbacks) (m : Moved) : Journal :=
  match m.transition with
  | .none => []
  | some t => .moved t :: c.told t m.breaker.state

/-- Telling passive callbacks is noting that they were told. -/
theorem announce_of_passive {c : Callbacks} (hpassive : c.IsPassive)
    (classifier : Option Classifier) :
    c.announce classifier c.depth = c.announcePassively := by
  rcases hpassive with hdepth | hidle
  · rw [hdepth]
    rfl
  · cases hdepth : c.depth with
    | zero => rfl
    | succ depth =>
        funext s t
        have hnothing : ∀ j, ((c.hook? t.target).map (·.reactions j)).getD [] = [] := by
          intro j
          cases hhook : c.hook? t.target with
          | none => rfl
          | some hook => exact hidle t.target hook hhook j
        simp only [announce, hnothing, Scene.reactAll]

/-- The transitions noted are those made. -/
@[simp]
theorem transitions_announced (c : Callbacks) (m : Moved) :
    (c.announced m).transitions = m.transition.toList := by
  unfold announced
  cases m.transition with
  | none => rfl
  | some t =>
      rw [Journal.transitions_cons, Journal.transitions_told]
      rfl

end Callbacks

/-- Announcing to passive callbacks what an operation made is noting that they were told. -/
theorem Scene.tell_announced {s : Scene} (c : Callbacks) {m : Moved}
    (hstate : s.breaker.state = m.breaker.state) :
    s.tell c.announcePassively m.transition =
      { s with journal := s.journal ++ c.announced m } := by
  unfold Scene.tell Callbacks.announced
  cases m.transition with
  | none => simp
  | some t => rw [← hstate]; rfl

/-- It leaves the breaker as the operation made it. -/
theorem Scene.settle_passively (s : Scene) (c : Callbacks) (m : Moved) :
    s.settle c.announcePassively m =
      { s.leave m.breaker false with journal := s.journal ++ c.announced m } :=
  tell_announced c rfl

/-- A scene after an operation: it has the breaker that the operation made, no time passed, and of
transitions only the one that it made was noted. -/
structure Scene.Settles (s : Scene) (m : Moved) (after : Scene) : Prop where
  breaker : after.breaker = m.breaker
  instant : after.instant = s.instant
  transitions : after.journal.transitions = s.journal.transitions ++ m.transition.toList

namespace Scene

variable {s : Scene} {m : Moved} {after : Scene}

/-- A note aside before an operation. -/
theorem Settles.of_note {n : Note} (hn : n.isAside = true) (h : (s.note n).Settles m after) :
    s.Settles m after := by
  have hnothing : (s.note n).journal.transitions = s.journal.transitions := by
    simp [note, Note.transition?_of_isAside hn]
  refine ⟨h.breaker, h.instant, ?_⟩
  rw [h.transitions, hnothing]

/-- Announcing the transition of an operation to passive callbacks. -/
theorem settles_passively (s : Scene) (c : Callbacks) (m : Moved) :
    s.Settles m (s.settle c.announcePassively m) := by
  rw [settle_passively]
  exact ⟨rfl, rfl, by simp⟩

/-- Recording the outcome of a call. -/
theorem settles_complete (s : Scene) (c : Callbacks) (generation : Nat)
    (succeeded timedOut : Bool) (elapsed : Duration) :
    s.Settles (s.breaker.complete s.now generation ⟨succeeded, elapsed.millis, s.now, timedOut⟩)
      (s.complete c.announcePassively generation succeeded timedOut elapsed) := by
  unfold complete
  split
  · rename_i hstale
    rw [Breaker.complete_stale hstale]
    exact Settles.of_note rfl ⟨rfl, rfl, (List.append_nil _).symm⟩
  · exact s.settles_passively c _

/-- Handing back a permit. -/
theorem settles_release (s : Scene) (generation : Nat) :
    s.Settles (s.breaker.release generation).stays (s.release generation) :=
  ⟨rfl, rfl, (List.append_nil _).symm⟩

end Scene

/-- An operation of a circuit with passive callbacks. -/
theorem Circuit.perform_passively {α : Type} {c : Circuit} (hpassive : c.callbacks.IsPassive)
    (instant : Instant) (operation : Scene → Announcer → Scene × α) :
    c.perform instant operation =
      let after := operation (c.scene instant) c.callbacks.announcePassively
      ({ c with breaker := after.1.breaker }, after.1.instant, after.1.journal, after.2) := by
  rw [perform, announcer, Callbacks.announce_of_passive hpassive]

/-! ## Settling a permit -/

/-- The end of a call that was granted a permit: its outcome is recorded, or the permit is handed
back. -/
def Breaker.settle (b : Breaker) (now : Nat) (p : Permit) : Option Outcome → Moved
  | some o => b.complete now p.generation o
  | none => (b.release p.generation).stays

/-- Settling a permit updates the breaker within its phase and then enters one phase or none. -/
theorem Breaker.settle_leads (b : Breaker) (now : Nat) (p : Permit) (o : Option Outcome) :
    ∃ updated, b.Alike updated ∧ updated.Leads now (b.settle now p o) := by
  cases o with
  | none => exact ⟨_, b.release_alike p.generation, .stays⟩
  | some o =>
      by_cases hlive : b.generation = p.generation
      · exact ⟨_, b.recorded_alike now o, complete_leads hlive now o⟩
      · refine ⟨b, Alike.refl b, ?_⟩
        rw [settle, complete_stale hlive]
        exact .stays

/-- The number of the permit that a use uses up. -/
def Use.permit? : Use → Option Nat
  | .complete i _ => some i
  | .timeOut i _ => some i
  | .fault i _ => some i
  | .release i => some i
  | _ => none

namespace Usage

/-- A circuit in use with another breaker. -/
def put (u : Usage) (b : Breaker) : Usage := { u with circuit := { u.circuit with breaker := b } }

@[simp]
theorem put_breaker (u : Usage) (b : Breaker) : (u.put b).circuit.breaker = b := rfl

/-- What a use reports of the call that was granted a permit. -/
def outcome? (u : Usage) (p : Permit) : Use → Option Outcome
  | .complete _ how =>
    some ⟨how = .succeeded, (p.elapsed u.instant).millis, u.now, how = .timedOut⟩
  | .timeOut _ _ => some ⟨false, (p.elapsed u.instant).millis, u.now, true⟩
  | .fault _ fault =>
    let recorded := match u.circuit.classifier with
      | none => true
      | some c => c.records u.circuit.breaker.name fault (p.elapsed u.instant)
    if recorded then some ⟨false, (p.elapsed u.instant).millis, u.now, false⟩ else none
  | _ => none

/-- What settling a permit makes of the breaker. -/
def settled (u : Usage) (p : Permit) (x : Use) : Moved :=
  u.circuit.breaker.settle u.now p (u.outcome? p x)

/-! ## What each use does -/

section Passive

variable {u : Usage}

/-- Callbacks that only watch go on doing so. -/
theorem passive_uses (hpassive : u.circuit.callbacks.IsPassive) (xs : List Use) :
    (u.uses xs).circuit.callbacks.IsPassive := by
  rw [uses_callbacks]
  exact hpassive

/-- Asking for a permit. -/
theorem step_acquire (hpassive : u.circuit.callbacks.IsPassive) :
    u.step .acquire =
      match u.circuit.breaker.attempt u.now with
      | (m, .granted generation) =>
        ({ u.put m.breaker with permits := ⟨generation, u.instant⟩ :: u.permits },
          u.circuit.callbacks.announced m, .granted)
      | (m, .rejected state retryAfter) =>
        (u.put m.breaker.countRejection,
          u.circuit.callbacks.announced m ++ [.rejected ⟨m.breaker.name, state, retryAfter⟩],
          .rejected ⟨m.breaker.name, state, retryAfter⟩) := by
  simp only [step, Circuit.acquire, Circuit.perform_passively hpassive, Scene.acquire,
    Scene.settle_passively, Circuit.scene_breaker, Circuit.scene_now]
  rw [now]
  rcases u.circuit.breaker.attempt (u.circuit.now u.instant) with ⟨m, verdict⟩
  cases verdict <;> rfl

/-- An attempt that is granted. -/
theorem step_acquire_granted (hpassive : u.circuit.callbacks.IsPassive) {m : Moved}
    {generation : Nat} (h : u.circuit.breaker.attempt u.now = (m, .granted generation)) :
    u.step .acquire =
      ({ u.put m.breaker with permits := ⟨generation, u.instant⟩ :: u.permits },
        u.circuit.callbacks.announced m, .granted) := by
  rw [step_acquire hpassive, h]

/-- An attempt that is refused. -/
theorem step_acquire_rejected (hpassive : u.circuit.callbacks.IsPassive) {m : Moved}
    {state : State} {retryAfter : Duration}
    (h : u.circuit.breaker.attempt u.now = (m, .rejected state retryAfter)) :
    u.step .acquire =
      (u.put m.breaker.countRejection,
        u.circuit.callbacks.announced m ++ [.rejected ⟨m.breaker.name, state, retryAfter⟩],
        .rejected ⟨m.breaker.name, state, retryAfter⟩) := by
  rw [step_acquire hpassive, h]

/-- Asking for a permit applies the transitions due and then stays within the phase. -/
theorem use_acquire_alike (hpassive : u.circuit.callbacks.IsPassive) :
    (u.circuit.breaker.check u.now).breaker.Alike (u.use .acquire).circuit.breaker := by
  have hdecided := (u.circuit.breaker.check u.now).breaker.decideNow_alike u.now
  rw [use, step_acquire hpassive, Breaker.attempt]
  cases hverdict : ((u.circuit.breaker.check u.now).breaker.decideNow u.now).2 with
  | granted generation =>
      simp only [hverdict]
      exact hdecided
  | rejected state retryAfter =>
      simp only [hverdict]
      exact hdecided.trans (Breaker.countRejection_alike _)

/-- Applying the transitions due. -/
theorem step_check (hpassive : u.circuit.callbacks.IsPassive) :
    u.step .check =
      (u.put (u.circuit.breaker.check u.now).breaker,
        u.circuit.callbacks.announced (u.circuit.breaker.check u.now),
        .state (u.circuit.breaker.check u.now).breaker.state) := by
  simp only [step, operate, Circuit.check, Circuit.perform_passively hpassive, Scene.check,
    Scene.settle_passively]
  rfl

/-- Forcing the circuit open. -/
theorem step_forceOpen (hpassive : u.circuit.callbacks.IsPassive) :
    u.step .forceOpen =
      (u.put (u.circuit.breaker.forceOpen u.now).breaker,
        (if u.circuit.breaker.isForced then [] else [.forcedOpen u.circuit.breaker.name]) ++
          u.circuit.callbacks.announced (u.circuit.breaker.forceOpen u.now),
        .nothing) := by
  simp only [step, operate, Circuit.forceOpen, Circuit.perform_passively hpassive,
    Scene.forceOpen, Scene.settle_passively]
  split
  · rename_i hforced
    rw [if_pos (show u.circuit.breaker.isForced = true from hforced)]
    rfl
  · rename_i hforced
    rw [if_neg (show ¬ u.circuit.breaker.isForced = true from hforced)]
    rfl

/-- Resetting the circuit. -/
theorem step_reset (hpassive : u.circuit.callbacks.IsPassive) :
    u.step .reset =
      (u.put (u.circuit.breaker.reset u.now).breaker,
        .reset u.circuit.breaker.name ::
          u.circuit.callbacks.announced (u.circuit.breaker.reset u.now),
        .nothing) := by
  have htold := Scene.tell_announced u.circuit.callbacks
    (s := (u.scene.note (.reset u.circuit.breaker.name)).leave
      (u.circuit.breaker.reset u.now).breaker true)
    (m := u.circuit.breaker.reset u.now) rfl
  have hreset : u.scene.reset u.circuit.callbacks.announcePassively =
      { (u.scene.note (.reset u.circuit.breaker.name)).leave
          (u.circuit.breaker.reset u.now).breaker true with
        journal := .reset u.circuit.breaker.name ::
          u.circuit.callbacks.announced (u.circuit.breaker.reset u.now) } := htold
  rw [scene] at hreset
  simp only [step, operate, Circuit.reset, Circuit.perform_passively hpassive, hreset]
  rfl

/-- A use that uses up a permit settles the call that it was granted for. -/
theorem step_spends (hpassive : u.circuit.callbacks.IsPassive) {x : Use} {i : Nat}
    (hx : x.permit? = some i) :
    ∃ operation : Permit → Returned Unit, u.step x = u.spend i operation ∧
      ∀ p, ∃ after : Scene,
        operation p =
          ({ u.circuit with breaker := after.breaker }, after.instant, after.journal, ()) ∧
        u.scene.Settles (u.settled p x) after := by
  have hperforms : ∀ operation : Scene → Announcer → Scene × Unit,
      u.circuit.perform u.instant operation =
        let after := (operation u.scene u.circuit.callbacks.announcePassively).1
        ({ u.circuit with breaker := after.breaker }, after.instant, after.journal, ()) :=
    Circuit.perform_passively hpassive u.instant
  cases x with
  | complete j how =>
      cases hx
      refine ⟨fun p => u.circuit.complete u.instant p how, rfl, fun p => ⟨_, hperforms _, ?_⟩⟩
      exact Scene.settles_complete _ _ _ _ _ _
  | timeOut j timeout =>
      cases hx
      refine ⟨fun p => u.circuit.timeOut u.instant p timeout, rfl, fun p => ⟨_, hperforms _, ?_⟩⟩
      exact Scene.Settles.of_note rfl (Scene.settles_complete _ _ _ _ _ _)
  | fault j fault =>
      cases hx
      refine ⟨fun p => u.circuit.fault u.instant p fault, rfl, fun p => ⟨_, hperforms _, ?_⟩⟩
      simp only [settled, outcome?, Scene.fault]
      cases u.circuit.classifier with
      | none => exact Scene.settles_complete _ _ _ _ _ _
      | some c =>
          dsimp only
          by_cases hrecorded : c.records u.scene.breaker.name fault (p.elapsed u.instant) = true
          · rw [if_pos hrecorded, if_pos (show c.records u.circuit.breaker.name fault
              (p.elapsed u.instant) = true from hrecorded)]
            exact Scene.settles_complete _ _ _ _ _ _
          · rw [if_neg hrecorded, if_neg (show ¬ c.records u.circuit.breaker.name fault
              (p.elapsed u.instant) = true from hrecorded)]
            exact Scene.Settles.of_note rfl (Scene.settles_release _ _)
  | release j =>
      cases hx
      refine ⟨fun p => u.circuit.release u.instant p, rfl, fun p => ⟨_, hperforms _, ?_⟩⟩
      exact Scene.settles_release _ _
  | wait d => cases hx
  | acquire => cases hx
  | check => cases hx
  | forceOpen => cases hx
  | reset => cases hx

/-- Using up a permit that no one has does nothing. -/
theorem step_settle_none (hpassive : u.circuit.callbacks.IsPassive) {x : Use} {i : Nat}
    (hx : x.permit? = some i) (hp : u.permits[i]? = none) : u.step x = (u, [], .nothing) := by
  obtain ⟨operation, hstep, _⟩ := step_spends hpassive hx
  rw [hstep, spend, hp]

/-- Using up a permit. -/
theorem step_settle (hpassive : u.circuit.callbacks.IsPassive) {x : Use} {i : Nat}
    (hx : x.permit? = some i) {p : Permit} (hp : u.permits[i]? = some p) :
    ∃ notes : Journal,
      u.step x = ({ u.put (u.settled p x).breaker with permits := u.permits.eraseIdx i }, notes,
        .nothing) ∧
      notes.transitions = (u.settled p x).transition.toList := by
  obtain ⟨operation, hstep, hsettles⟩ := step_spends hpassive hx
  obtain ⟨after, hoperation, hafter⟩ := hsettles p
  refine ⟨after.journal, ?_, hafter.transitions⟩
  rw [hstep, spend, hp]
  simp only [hoperation, hafter.breaker, hafter.instant]
  rfl

/-- Only waiting takes time. -/
theorem use_instant (hpassive : u.circuit.callbacks.IsPassive) (x : Use) :
    (u.use x).instant = match x with
      | .wait d => u.instant + d.nanos
      | _ => u.instant := by
  have hsettles : ∀ i, x.permit? = some i → (u.use x).instant = u.instant := by
    intro i hx
    cases hp : u.permits[i]? with
    | none => rw [use, step_settle_none hpassive hx hp]
    | some p =>
        obtain ⟨told, hstep, _⟩ := step_settle hpassive hx hp
        rw [use, hstep]
        rfl
  cases x with
  | wait d => rfl
  | acquire =>
      rw [use, step_acquire hpassive]
      rcases u.circuit.breaker.attempt u.now with ⟨m, verdict⟩
      cases verdict <;> rfl
  | check => rw [use, step_check hpassive]; rfl
  | forceOpen => rw [use, step_forceOpen hpassive]; rfl
  | reset => rw [use, step_reset hpassive]; rfl
  | complete i how => exact hsettles i rfl
  | timeOut i timeout => exact hsettles i rfl
  | fault i fault => exact hsettles i rfl
  | release i => exact hsettles i rfl

/-- So whatever else is done is done at one instant. -/
theorem use_instant_eq (hpassive : u.circuit.callbacks.IsPassive) {x : Use}
    (hx : ∀ d, x ≠ .wait d) : (u.use x).instant = u.instant := by
  rw [use_instant hpassive]
  cases x with
  | wait d => exact absurd rfl (hx d)
  | _ => rfl

/-- And at one reading. -/
theorem use_now (hpassive : u.circuit.callbacks.IsPassive) {x : Use} (hx : ∀ d, x ≠ .wait d) :
    (u.use x).now = u.now := by
  rw [now, now, Circuit.now, Circuit.now, use_clock, use_instant_eq hpassive hx]

/-- A use tells of one transition, from the state before it to another one after it, or it tells of
none and leaves the circuit in its state. -/
inductive MovesOnce (u : Usage) (x : Use) : Prop where
  | stays (hnotes : (u.notes x).transitions = []) (hstate : (u.use x).state = u.state)
  | moves (t : Transition) (hnotes : (u.notes x).transitions = [t]) (hproper : t.IsProper)
      (hsource : t.source = u.state) (htarget : t.target = (u.use x).state)
      (hreading : t.reading = u.now)

/-- A use that announces what one operation does moves once at most. -/
theorem movesOnce_of_announces {x : Use} {m : Moved}
    (hm : u.circuit.breaker.Announces u.now m)
    (hnotes : (u.notes x).transitions = m.transition.toList)
    (hstate : (u.use x).state = m.breaker.state) : u.MovesOnce x := by
  cases hm with
  | nothing htransition hsame _ =>
      rw [htransition] at hnotes
      exact .stays hnotes (hstate.trans hsame)
  | change t htransition hproper hsource htarget hreading _ =>
      rw [htransition] at hnotes
      exact .moves t hnotes hproper hsource (htarget.trans hstate.symm) hreading

/-- So does every use by itself. -/
theorem movesOnce (hpassive : u.circuit.callbacks.IsPassive) (x : Use) : u.MovesOnce x := by
  have hsettles : ∀ i, x.permit? = some i → u.MovesOnce x := by
    intro i hx
    cases hp : u.permits[i]? with
    | none =>
        refine .stays ?_ ?_
        · rw [notes, step_settle_none hpassive hx hp]
          rfl
        · rw [use, step_settle_none hpassive hx hp]
    | some p =>
        obtain ⟨told, hstep, htransitions⟩ := step_settle hpassive hx hp
        obtain ⟨updated, hupdated, hleads⟩ :=
          u.circuit.breaker.settle_leads u.now p (u.outcome? p x)
        apply movesOnce_of_announces (hleads.announces.of_alike hupdated)
        · rw [notes, hstep]
          exact htransitions
        · rw [use, hstep]
          rfl
  cases x with
  | wait d => exact .stays rfl rfl
  | acquire =>
      apply movesOnce_of_announces (u.circuit.breaker.attempt_announces u.now)
      · rw [notes, step_acquire hpassive]
        rcases u.circuit.breaker.attempt u.now with ⟨m, verdict⟩
        cases verdict <;> simp [Note.transition?]
      · rw [use, step_acquire hpassive]
        rcases u.circuit.breaker.attempt u.now with ⟨m, verdict⟩
        cases verdict <;> rfl
  | check =>
      apply movesOnce_of_announces (u.circuit.breaker.check_leads u.now).announces
      · rw [notes, step_check hpassive, Callbacks.transitions_announced]
      · rw [use, step_check hpassive]
        rfl
  | forceOpen =>
      apply movesOnce_of_announces (u.circuit.breaker.forceOpen_announces u.now)
      · rw [notes, step_forceOpen hpassive, Journal.transitions_append,
          Callbacks.transitions_announced]
        split <;> rfl
      · rw [use, step_forceOpen hpassive]
        rfl
  | reset =>
      have htold : (u.notes .reset).transitions =
          (u.circuit.breaker.reset u.now).transition.toList := by
        rw [notes, step_reset hpassive, Journal.transitions_cons, Callbacks.transitions_announced]
        rfl
      have hafter : (u.use .reset).state = .closed := by
        rw [use, step_reset hpassive]
        rfl
      by_cases hclosed : u.circuit.breaker.state = .closed
      · refine .stays ?_ (hafter.trans hclosed.symm)
        rw [htold, Breaker.reset, if_pos hclosed]
        rfl
      · exact movesOnce_of_announces (Breaker.reset_announces hclosed u.now) htold hafter
  | complete i how => exact hsettles i rfl
  | timeOut i timeout => exact hsettles i rfl
  | fault i fault => exact hsettles i rfl
  | release i => exact hsettles i rfl

end Passive

end Usage

end FailFast
