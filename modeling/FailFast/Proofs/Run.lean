import FailFast.Circuit
import FailFast.Config.Validation
import FailFast.Proofs.Breaker

/-!
# Runs of a breaker

A run is all that happens to one breaker from its making on, one act after the other, in any order.
An act is one step in which a circuit touches its breaker: an attempt, the settlement or the return
of a permit, a check, and so on; an admitted call is an attempt and, any time later, one settlement
or return.  Callbacks are callers like all others, and what they do to the breaker stands in the
run where it happens.  So the states of a run are those in which no operation holds the breaker.
`FailFast.Proofs.Usage` shows that every use of a circuit is such a run.

A run knows the permits that callers still hold and a history, newest first, of what callers and
listeners can see.  Whether a permit is stale, which outcomes were accepted and what state the
circuit shows are read off the history alone.

Main results:

- Theorem `History.changedSince_iff`: a change happened since a mark when the changes have become
  more.
- Theorem `Run.Unwrapped.now_le`: until the clock wraps its readings never go back.
- Theorem `Run.Reachable.induction`: what holds at the start and is kept by every act holds in
  every run.
- Theorem `Run.Reachable.config_eq`: no run changes the configuration.
-/

namespace FailFast

/-! ## Histories -/

/-- Something that happened to a breaker. -/
inductive Incident where
  /-- An attempt was granted. -/
  | granted
  /-- An attempt was rejected. -/
  | rejected
  /-- An admitted call reported its outcome; at its grant the history had the length `mark`. -/
  | settled (mark : Nat) (o : Outcome)
  /-- A permit was handed back; at its grant the history had the length `mark`. -/
  | returned (mark : Nat)
  /-- The circuit was forced open. -/
  | forced
  /-- The circuit changed its state, other than by a reset. -/
  | moved (t : Transition)
  /-- The circuit was reset, with a transition unless it was closed. -/
  | reset (t : Option Transition)
deriving DecidableEq, Inhabited

namespace Incident

/-- Whether an incident is a change: of the state, or a reset. -/
def isChange : Incident → Bool
  | moved _ => true
  | reset _ => true
  | _ => false

/-- Whether the circuit begins to judge afresh: it was reset, half opened or closed. -/
def isFreshStart : Incident → Bool
  | moved t => t.target ≠ .opened
  | reset _ => true
  | _ => false

/-- The transition that listeners were told of. -/
def transition? : Incident → Option Transition
  | moved t => some t
  | reset t => t
  | _ => none

end Incident

/-- What happened to a breaker, newest first. -/
abbrev History := List Incident

namespace History

/-- The number of changes. -/
def changes (h : History) : Nat := h.countP Incident.isChange

/-- The history as it was when it had a length. -/
def upTo (h : History) (mark : Nat) : History := h.drop (h.length - mark)

/-- What happened since the history had a length. -/
def since (h : History) (mark : Nat) : History := h.take (h.length - mark)

/-- Whether the state changed or the circuit was reset since the history had a length. -/
def changedSince (h : History) (mark : Nat) : Bool := (h.since mark).any Incident.isChange

/-- The state that a history leaves behind. -/
def state : History → State
  | [] => .closed
  | .moved t :: _ => t.target
  | .reset _ :: _ => .closed
  | _ :: h => state h

/-- The transitions of a history, newest first. -/
def transitions (h : History) : List Transition := h.filterMap Incident.transition?

/-- What an incident adds to the accepted outcomes: the outcome of a call since whose admission
nothing changed. -/
def gained (h : History) : Incident → List Outcome
  | .settled mark o => if h.changedSince mark then [] else [o]
  | _ => []

/-- The outcomes accepted since the last incident of a kind, oldest first. -/
def acceptedSince (starts : Incident → Bool) : History → List Outcome
  | [] => []
  | i :: h => if starts i then [] else acceptedSince starts h ++ gained h i

/-- The outcomes accepted since the circuit last began to judge afresh. -/
def reference (h : History) : List Outcome := acceptedSince Incident.isFreshStart h

/-- The outcomes accepted since the last change. -/
def period (h : History) : List Outcome := acceptedSince Incident.isChange h

/-- Every change counts once. -/
theorem changes_cons_change {i : Incident} (hi : i.isChange = true) (h : History) :
    changes (i :: h) = h.changes + 1 :=
  List.countP_cons_of_pos hi

/-- Other incidents do not count. -/
theorem changes_cons {i : Incident} (hi : i.isChange = false) (h : History) :
    changes (i :: h) = h.changes :=
  List.countP_cons_of_neg (by simp [hi])

/-- A history is what it was once and what happened since. -/
theorem since_append_upTo (h : History) (mark : Nat) : h.since mark ++ h.upTo mark = h :=
  List.take_append_drop _ _

@[simp]
theorem upTo_length (h : History) : h.upTo h.length = h := by
  simp [upTo]

/-- A later incident leaves the past as it was. -/
theorem upTo_cons {h : History} {mark : Nat} (hmark : mark ≤ h.length) (i : Incident) :
    upTo (i :: h) mark = h.upTo mark := by
  have hlength : h.length + 1 - mark = (h.length - mark) + 1 := by omega
  simp [upTo, hlength]

/-- The changes of a history are those up to a mark and those since. -/
theorem changes_eq (h : History) (mark : Nat) :
    h.changes = (h.since mark).changes + (h.upTo mark).changes := by
  have hsplit := congrArg changes (h.since_append_upTo mark)
  rw [← hsplit]
  exact List.countP_append

/-- There were no more changes at a mark than there are now. -/
theorem changes_upTo_le (h : History) (mark : Nat) : (h.upTo mark).changes ≤ h.changes := by
  have hsplit := h.changes_eq mark
  omega

/-- A change happened since a mark when the changes have become more. -/
theorem changedSince_iff (h : History) (mark : Nat) :
    h.changedSince mark = true ↔ (h.upTo mark).changes < h.changes := by
  have hsplit := h.changes_eq mark
  have hpos : h.changedSince mark = true ↔ 0 < (h.since mark).changes := by
    simp [changedSince, changes, List.countP_pos_iff]
  rw [hpos]
  omega

/-- An incident that is no change leaves the state. -/
theorem state_cons {i : Incident} (hi : i.isChange = false) (h : History) :
    state (i :: h) = h.state := by
  cases i with
  | moved t => cases hi
  | reset t => cases hi
  | _ => rfl

/-- Without a change the state stays what it was. -/
theorem state_of_unchanged {h : History} {mark : Nat} (hsame : h.changedSince mark = false) :
    h.state = (h.upTo mark).state := by
  have hskip : ∀ recent past : History, recent.any Incident.isChange = false →
      state (recent ++ past) = past.state := by
    intro recent past hrecent
    induction recent with
    | nil => rfl
    | cons i recent ih =>
        simp only [List.any_cons, Bool.or_eq_false_iff] at hrecent
        rw [List.cons_append, state_cons hrecent.1, ih hrecent.2]
  have hsplit := hskip (h.since mark) (h.upTo mark) hsame
  rwa [since_append_upTo] at hsplit

/-- An incident that starts nothing and reports nothing leaves the accepted outcomes. -/
theorem acceptedSince_cons {starts : Incident → Bool} {i : Incident} (hi : starts i = false)
    (h : History) : acceptedSince starts (i :: h) = acceptedSince starts h ++ gained h i := by
  simp [acceptedSince, hi]

/-- The reference gains the outcome of a call since whose admission nothing changed. -/
theorem reference_settled (h : History) (mark : Nat) (o : Outcome) :
    reference (.settled mark o :: h) = h.reference ++ if h.changedSince mark then [] else [o] :=
  acceptedSince_cons rfl h

/-- So does what was accepted since the last change. -/
theorem period_settled (h : History) (mark : Nat) (o : Outcome) :
    period (.settled mark o :: h) = h.period ++ if h.changedSince mark then [] else [o] :=
  acceptedSince_cons rfl h

/-- After a start nothing was accepted. -/
theorem acceptedSince_start {starts : Incident → Bool} {i : Incident} (hi : starts i = true)
    (h : History) : acceptedSince starts (i :: h) = [] := by
  simp [acceptedSince, hi]

end History

/-! ## Runs -/

/-- A permit in the hands of a caller; at its grant the history had the length `mark`. -/
structure Ticket where
  permit : Permit
  mark : Nat
deriving DecidableEq, Inhabited

/-- The same ticket, counting the time of its call from an instant on. -/
def Ticket.startedAt (t : Ticket) (instant : Instant) : Ticket :=
  { t with permit := { t.permit with grantedAt := instant } }

/-- A step in which a circuit touches its breaker, or in which time passes. -/
inductive Act where
  | wait (d : Duration)
  /-- Ask to run one call. -/
  | attempt
  /-- Hand a granted permit to its caller, which happens after the callbacks of the attempt were
  called; the time of the call counts from then on. -/
  | handOver (i : Nat)
  /-- Count a rejected attempt, which happens after its callbacks were called. -/
  | countRejection
  /-- Report how the call of a permit ended. -/
  | settle (i : Nat) (how : Completion)
  /-- Hand back a permit: it was released or dropped, its call was cancelled, or the classifier
  ignores the error of its call. -/
  | giveBack (i : Nat)
  | check
  | forceOpen
  | reset
deriving DecidableEq, Inhabited

/-- A breaker in a run, at a moment at which no operation holds it. -/
structure Run where
  breaker : Breaker
  clock : Clock
  instant : Instant
  /-- The permits not yet settled or handed back, newest first. -/
  tickets : List Ticket
  /-- The rejected attempts that are not counted yet. -/
  uncounted : Nat
  history : History
deriving Inhabited

namespace Run

/-- A run in which nothing happened yet. -/
def start (name : String) (config : Config) (draws : Draws) (instant : Instant) : Run where
  breaker := .fresh name config draws (Clock.reading ⟨instant⟩ instant)
  clock := ⟨instant⟩
  instant := instant
  tickets := []
  uncounted := 0
  history := []

/-- The reading of the clock. -/
def now (r : Run) : Nat := r.clock.reading r.instant

/-- The outcome that a call admitted with a ticket reports. -/
def outcome (r : Run) (t : Ticket) (how : Completion) : Outcome :=
  ⟨how = .succeeded, (t.permit.elapsed r.instant).millis, r.now, how = .timedOut⟩

/-- Add an incident. -/
def note (r : Run) (i : Incident) : Run := { r with history := i :: r.history }

/-- Take over what an operation made of the breaker. -/
def adopt (r : Run) (m : Moved) : Run :=
  { r with
    breaker := m.breaker
    history := match m.transition with
      | none => r.history
      | some t => .moved t :: r.history }

/-- Take over the answer to an attempt. -/
def answer (r : Run) : Breaker.Verdict → Run
  | .granted generation =>
    { r with
      tickets := ⟨⟨generation, r.instant⟩, r.history.length + 1⟩ :: r.tickets
      history := .granted :: r.history }
  | .rejected _ _ => { r with uncounted := r.uncounted + 1, history := .rejected :: r.history }

/-- Take a ticket from its holder. -/
def drop (r : Run) (i : Nat) : Run := { r with tickets := r.tickets.eraseIdx i }

/-- Report how the call of a ticket ended. -/
def settle (r : Run) (i : Nat) (t : Ticket) (how : Completion) : Run :=
  ((r.drop i).note (.settled t.mark (r.outcome t how))).adopt
    (r.breaker.complete r.now t.permit.generation (r.outcome t how))

/-- Hand back the permit of a ticket. -/
def giveBack (r : Run) (i : Nat) (t : Ticket) : Run :=
  { (r.drop i).note (.returned t.mark) with breaker := r.breaker.release t.permit.generation }

/-- One act; a caller without a permit can neither settle nor hand back. -/
def act (r : Run) : Act → Run
  | .wait d => { r with instant := r.instant + d.nanos }
  | .attempt =>
    let (m, verdict) := r.breaker.attempt r.now
    (r.adopt m).answer verdict
  | .handOver i => { r with tickets := r.tickets.modify i (·.startedAt r.instant) }
  | .countRejection =>
    if 0 < r.uncounted then
      { r with breaker := r.breaker.countRejection, uncounted := r.uncounted - 1 }
    else r
  | .settle i how =>
    match r.tickets[i]? with
    | none => r
    | some t => r.settle i t how
  | .giveBack i =>
    match r.tickets[i]? with
    | none => r
    | some t => r.giveBack i t
  | .check => r.adopt (r.breaker.check r.now)
  | .forceOpen => (r.note .forced).adopt (r.breaker.forceOpen r.now)
  | .reset =>
    let m := r.breaker.reset r.now
    { r with breaker := m.breaker, history := .reset m.transition :: r.history }

/-- Several acts in order. -/
def acts (r : Run) : List Act → Run
  | [] => r
  | a :: rest => (r.act a).acts rest

/-- The outcome that an act reports and that counts: nothing changed since the admission. -/
def accepts? (r : Run) : Act → Option Outcome
  | .settle i how =>
    match r.tickets[i]? with
    | none => none
    | some t => if r.history.changedSince t.mark then none else some (r.outcome t how)
  | _ => none

/-- The number of permits of the current generation that callers hold. -/
def live (r : Run) : Nat :=
  r.tickets.countP fun t => t.permit.generation == r.breaker.generation

/-! ## Acts in parts -/

/-- Acts one after the other. -/
theorem acts_append (r : Run) (first rest : List Act) :
    r.acts (first ++ rest) = (r.acts first).acts rest := by
  induction first generalizing r with
  | nil => rfl
  | cons a first ih =>
      rw [List.cons_append, acts, acts]
      exact ih (r.act a)

/-- An attempt applies the transitions due and then decides. -/
theorem act_attempt (r : Run) :
    r.act .attempt =
      { r.adopt (r.breaker.check r.now) with
        breaker := ((r.breaker.check r.now).breaker.decideNow r.now).1 }.answer
          ((r.breaker.check r.now).breaker.decideNow r.now).2 := rfl

theorem act_settle {r : Run} {i : Nat} {t : Ticket} (h : r.tickets[i]? = some t)
    (how : Completion) : r.act (.settle i how) = r.settle i t how := by
  simp [act, h]

theorem act_settle_none {r : Run} {i : Nat} (h : r.tickets[i]? = none) (how : Completion) :
    r.act (.settle i how) = r := by
  simp [act, h]

theorem act_giveBack {r : Run} {i : Nat} {t : Ticket} (h : r.tickets[i]? = some t) :
    r.act (.giveBack i) = r.giveBack i t := by
  simp [act, h]

theorem act_giveBack_none {r : Run} {i : Nat} (h : r.tickets[i]? = none) :
    r.act (.giveBack i) = r := by
  simp [act, h]

/-- Handing over a permit leaves to which generation each ticket belongs and when it was granted. -/
theorem tickets_handOver (r : Run) (i : Nat) :
    (r.act (.handOver i)).tickets.map (fun t => (t.permit.generation, t.mark)) =
      r.tickets.map fun t => (t.permit.generation, t.mark) := by
  apply List.ext_getElem?
  intro j
  simp only [act, List.getElem?_map, List.getElem?_modify]
  cases r.tickets[j]? with
  | none => rfl
  | some t =>
      simp only [Option.map_eq_map, Option.map_some]
      split <;> rfl

/-- So every ticket is one that was there before, but for the time of its call. -/
theorem mem_handOver {r : Run} {i : Nat} {t : Ticket} (ht : t ∈ (r.act (.handOver i)).tickets) :
    ∃ held ∈ r.tickets, held.permit.generation = t.permit.generation ∧ held.mark = t.mark := by
  have hkeys := List.mem_map_of_mem (f := fun t : Ticket => (t.permit.generation, t.mark)) ht
  rw [tickets_handOver, List.mem_map] at hkeys
  obtain ⟨held, hheld, hkey⟩ := hkeys
  exact ⟨held, hheld, congrArg Prod.fst hkey, congrArg Prod.snd hkey⟩

/-- A settlement counts when nothing changed since the grant. -/
theorem accepts?_settle {r : Run} {i : Nat} {t : Ticket} (h : r.tickets[i]? = some t)
    (how : Completion) :
    r.accepts? (.settle i how) =
      if r.history.changedSince t.mark then none else some (r.outcome t how) := by
  simp [accepts?, h]

theorem accepts?_settle_none {r : Run} {i : Nat} (h : r.tickets[i]? = none) (how : Completion) :
    r.accepts? (.settle i how) = none := by
  simp [accepts?, h]

@[simp]
theorem answer_breaker (r : Run) (verdict : Breaker.Verdict) :
    (r.answer verdict).breaker = r.breaker := by
  cases verdict <;> rfl

/-- No act changes the configuration. -/
theorem act_config (r : Run) (a : Act) : (r.act a).breaker.config = r.breaker.config := by
  cases a with
  | wait d => rfl
  | attempt =>
      rw [act_attempt, answer_breaker]
      rw [(Breaker.decideNow_alike _ _).config]
      exact (Breaker.check_leads _ _).config
  | handOver i => rfl
  | countRejection =>
      simp only [act]
      split <;> rfl
  | settle i how =>
      simp only [act]
      split
      · rfl
      · rename_i t _
        by_cases hlive : r.breaker.generation = t.permit.generation
        · exact (Breaker.complete_leads hlive _ _).config
        · simp [settle, adopt, Breaker.complete_stale hlive, Breaker.stays]
  | giveBack i =>
      simp only [act]
      split
      · rfl
      · exact (Breaker.release_alike _ _).config
  | check => exact (Breaker.check_leads _ _).config
  | forceOpen =>
      obtain ⟨marked, hmarked, _, hleads⟩ := Breaker.forceOpen_leads r.breaker r.now
      exact hleads.config.trans hmarked.config
  | reset => rfl

/-- No act moves the anchor of the clock. -/
theorem act_clock (r : Run) (a : Act) : (r.act a).clock = r.clock := by
  cases a with
  | attempt =>
      rw [act_attempt]
      cases ((r.breaker.check r.now).breaker.decideNow r.now).2 <;> rfl
  | handOver i => rfl
  | countRejection =>
      simp only [act]
      split <;> rfl
  | settle i how =>
      simp only [act]
      split <;> rfl
  | giveBack i =>
      simp only [act]
      split <;> rfl
  | wait d => rfl
  | check => rfl
  | forceOpen => rfl
  | reset => rfl

/-- Nor do several. -/
theorem acts_clock (r : Run) (as : List Act) : (r.acts as).clock = r.clock := by
  induction as generalizing r with
  | nil => rfl
  | cons a rest ih => exact (ih (r.act a)).trans (r.act_clock a)

/-- No act turns time back. -/
theorem act_instant_le (r : Run) (a : Act) : r.instant ≤ (r.act a).instant := by
  cases a with
  | wait d => exact Nat.le_add_right _ _
  | attempt =>
      rw [act_attempt]
      cases ((r.breaker.check r.now).breaker.decideNow r.now).2 <;> exact Nat.le_refl _
  | handOver i => exact Nat.le_refl _
  | countRejection =>
      simp only [act]
      split <;> exact Nat.le_refl _
  | settle i how =>
      simp only [act]
      split <;> exact Nat.le_refl _
  | giveBack i =>
      simp only [act]
      split <;> exact Nat.le_refl _
  | check => exact Nat.le_refl _
  | forceOpen => exact Nat.le_refl _
  | reset => exact Nat.le_refl _

/-- The clock has not wrapped yet. -/
def Unwrapped (r : Run) : Prop := (r.instant - r.clock.anchor) / 1000000 < wordCount

/-- A clock that has not wrapped had not wrapped before. -/
theorem Unwrapped.before {r : Run} {a : Act} (h : (r.act a).Unwrapped) : r.Unwrapped := by
  have hle := Nat.sub_le_sub_right (r.act_instant_le a) r.clock.anchor
  unfold Unwrapped at h ⊢
  rw [act_clock] at h
  exact Nat.lt_of_le_of_lt (Nat.div_le_div_right hle) h

/-- A clock that has not wrapped never goes back. -/
theorem Unwrapped.now_le {r : Run} {a : Act} (h : (r.act a).Unwrapped) : r.now ≤ (r.act a).now := by
  unfold now
  rw [act_clock]
  apply Clock.reading_mono _ (r.act_instant_le a)
  rw [← r.act_clock a]
  exact h

/-- An outcome that counts is stamped with the reading. -/
theorem timestamp_of_accepts? {r : Run} {a : Act} {o : Outcome} (h : r.accepts? a = some o) :
    o.timestamp = r.now := by
  cases a with
  | settle i how =>
      simp only [accepts?] at h
      split at h
      · cases h
      · split at h
        · cases h
        · cases h
          rfl
  | _ => cases h

/-! ## Reachable runs -/

/-- A run of a breaker with a configuration: it is made at some instant, and then any acts follow in
any order. -/
def Reachable (config : Config) (r : Run) : Prop :=
  ∃ name draws instant as, r = (start name config draws instant).acts as

/-- A run in which nothing happened yet is reachable. -/
theorem Reachable.start (name : String) (config : Config) (draws : Draws) (instant : Instant) :
    Reachable config (start name config draws instant) :=
  ⟨name, draws, instant, [], rfl⟩

/-- Acts lead from reachable runs to reachable runs. -/
theorem Reachable.acts {config : Config} {r : Run} (hr : Reachable config r) (as : List Act) :
    Reachable config (r.acts as) := by
  obtain ⟨name, draws, instant, before, rfl⟩ := hr
  exact ⟨name, draws, instant, before ++ as, (acts_append _ before as).symm⟩

/-- What holds at the start and is kept by every act holds in every run. -/
theorem Reachable.induction {config : Config} {P : Run → Prop}
    (hstart : ∀ name draws instant, P (Run.start name config draws instant))
    (hact : ∀ r a, Reachable config r → P r → P (r.act a))
    {r : Run} (hr : Reachable config r) : P r := by
  have hacts : ∀ as r, Reachable config r → P r → P (r.acts as) := by
    intro as
    induction as with
    | nil => exact fun r _ hP => hP
    | cons a rest ih => exact fun r hr hP => ih (r.act a) (hr.acts [a]) (hact r a hr hP)
  obtain ⟨name, draws, instant, as, rfl⟩ := hr
  exact hacts as _ (.start name config draws instant) (hstart name draws instant)

/-- No run changes the configuration. -/
theorem Reachable.config_eq {config : Config} {r : Run} (hr : Reachable config r) :
    r.breaker.config = config :=
  hr.induction (fun _ _ _ => rfl) fun r a _ hconfig => (r.act_config a).trans hconfig

end Run

/-! ## A short run -/

/-- A configuration under which one failure opens the circuit and two trial calls decide. -/
def Config.brief : Config :=
  { Config.standard with
    minimumCalls := 1
    windowSize := 2
    openWait := .ofMillis 5
    trialCalls := 2 }

theorem Config.brief_valid : Config.brief.Valid where
  failureRate := standard_valid.failureRate
  slowRate := standard_valid.slowRate
  minimumCalls := by decide
  windowSize := by decide
  trialCalls := by decide
  openWait := by decide
  slowCall := standard_valid.slowCall
  minimumFits := fun _ => by decide
  trialWait := standard_valid.trialWait
  callTimeout := standard_valid.callTimeout
  jitter := standard_valid.jitter

/-- Two calls are admitted, one of them fails and opens the circuit, and after the wait two trial
calls are admitted; the other of the first two still runs. -/
def Run.probing : Run :=
  (Run.start "db" .brief .halves 0).acts
    [.attempt, .attempt, .settle 0 .failed, .wait (.ofMillis 5), .attempt, .attempt]

theorem Run.probing_reachable : Run.probing.Reachable .brief :=
  (Run.Reachable.start "db" .brief .halves 0).acts _

end FailFast
