import FailFast.Proofs.Usage.Calls
import FailFast.Proofs.Usage.Passive

/-!
# Open periods

An open period begins at a reading and lasts, unless it is ended by hand, until its wait is over and
someone attempts a call or has the transitions due applied.  Whatever happens before that, be it
attempts, checks or the late ends of calls, the breaker only counts rejections.  So the wait neither
starts again nor ends early: every attempt before its end is refused with the time that is left, and
the first attempt or check from then on starts a trial of which nothing has been used up.

Main results:

- Theorem `Usage.phase_of_opening`: what a circuit that opens remembers.
- Theorem `Usage.use_waiting` and theorem `Usage.Early.breaker_eq`: before the end of the wait the
  breaker only counts rejections.
- Theorem `Usage.open_admission`: attempts before the end of the wait, and what ends it.
-/

namespace FailFast

/-! ## The open phase -/

namespace Breaker

section Opened

variable {b : Breaker} {now : Nat}

/-- A circuit that opens, after an update within its phase, remembers since when and its whole
wait. -/
theorem Leads.opened {updated : Breaker} {m : Moved} (h : updated.Leads now m)
    (hupdated : b.Alike updated) (hjitter : b.config.isJittered = false)
    (hbefore : b.state ≠ .opened) (hafter : m.breaker.state = .opened) :
    ∃ forced, m.breaker.phase = .opened ⟨now, b.config.openWait.millis, forced⟩ := by
  rw [← hupdated.state] at hbefore
  cases h with
  | stays => exact absurd hafter hbefore
  | opens forced _ =>
      have hwait : updated.config.openMillis (updated.draws updated.generation) =
          b.config.openWait.millis := by
        rw [hupdated.config, Config.openMillis_of_not_jittered hjitter]
      exact ⟨forced, congrArg (fun wait => Phase.opened ⟨now, wait, forced⟩) hwait⟩
  | probes hopened => exact absurd hopened hbefore
  | closes _ => cases hafter

/-- An open period that was not opened by hand goes on until its wait has passed. -/
theorem waited_eq_false_iff {period : OpenPeriod} (hunforced : period.forced = false) :
    waited period now = false ↔ now - period.since < period.wait := by
  simp [waited, hunforced]

/-- A breaker that counted some more rejections. -/
def refused (b : Breaker) (count : Nat) : Breaker := { b with rejections := b.rejections + count }

/-- A breaker in a trial that began just now, of whose permits some are taken. -/
def probed (b : Breaker) (now taken : Nat) : Breaker :=
  { (b.toTrial now).breaker with
    phase := .halfOpen ⟨now, b.config.trialCalls - taken, 0, 0, 0⟩ }

/-- Settling a stale permit does nothing. -/
theorem settle_stale {p : Permit} (hstale : b.generation ≠ p.generation) (now : Nat)
    (o : Option Outcome) : b.settle now p o = b.stays := by
  cases o with
  | none => rw [settle, release_stale hstale]
  | some o => exact complete_stale hstale now o

end Opened

end Breaker

namespace Usage

section Opening

variable {u : Usage} (hpassive : u.circuit.callbacks.IsPassive)
  (hjitter : u.circuit.breaker.config.isJittered = false) (hbefore : u.state ≠ .opened)

include hpassive hjitter hbefore

/-- An attempt that opens the circuit, at the deadline of a trial, finds it open and is refused. -/
theorem acquire_opening (hafter : (u.use .acquire).state = .opened) :
    ∃ period : OpenPeriod, period.since = u.now ∧
      period.wait = u.circuit.breaker.config.openWait.millis ∧
      (u.use .acquire).circuit.breaker.phase = .opened period ∧
      (u.use .acquire).circuit.breaker.rejections = u.circuit.breaker.rejections + 1 ∧
      u.reply .acquire =
        .rejected ⟨u.circuit.breaker.name, .opened, Breaker.openRetry period u.now⟩ := by
  have hleads := u.circuit.breaker.check_leads u.now
  rw [state, (use_acquire_alike hpassive).state] at hafter
  obtain ⟨forced, hphase⟩ := hleads.opened (Breaker.Alike.refl _) hjitter hbefore hafter
  rw [use, reply, step_acquire_rejected hpassive (Breaker.attempt_opened hphase), hleads.name]
  exact ⟨_, rfl, rfl, hphase, congrArg (· + 1) hleads.rejections, rfl⟩

/-- A circuit that opens remembers the reading of the use that opened it, and its whole wait. -/
theorem phase_of_opening {x : Use} (hafter : (u.use x).state = .opened) :
    ∃ forced, (u.use x).circuit.breaker.phase =
      .opened ⟨u.now, u.circuit.breaker.config.openWait.millis, forced⟩ := by
  have hsettles : ∀ i, x.permit? = some i → ∃ forced, (u.use x).circuit.breaker.phase =
      .opened ⟨u.now, u.circuit.breaker.config.openWait.millis, forced⟩ := by
    intro i hx
    unfold use state at hafter
    cases hp : u.permits[i]? with
    | none =>
        rw [step_settle_none hpassive hx hp] at hafter
        exact absurd hafter hbefore
    | some p =>
        obtain ⟨told, hstep, _⟩ := step_settle hpassive hx hp
        obtain ⟨updated, hupdated, hleads⟩ :=
          u.circuit.breaker.settle_leads u.now p (u.outcome? p x)
        rw [use, hstep]
        rw [hstep] at hafter
        exact hleads.opened hupdated hjitter hbefore hafter
  cases x with
  | wait d => exact absurd hafter hbefore
  | acquire =>
      obtain ⟨period, hsince, hwait, hphase, _⟩ :=
        acquire_opening hpassive hjitter hbefore hafter
      refine ⟨period.forced, hphase.trans ?_⟩
      rw [← hsince, ← hwait]
  | check =>
      have hleads := u.circuit.breaker.check_leads u.now
      unfold use state at hafter
      rw [step_check hpassive] at hafter
      rw [use, step_check hpassive]
      exact hleads.opened (Breaker.Alike.refl _) hjitter hbefore hafter
  | forceOpen =>
      obtain ⟨marked, hmarked, _, hleads⟩ := u.circuit.breaker.forceOpen_leads u.now
      unfold use state at hafter
      rw [step_forceOpen hpassive] at hafter
      rw [use, step_forceOpen hpassive]
      exact hleads.opened hmarked hjitter hbefore hafter
  | reset =>
      unfold use state at hafter
      rw [step_reset hpassive] at hafter
      cases hafter
  | complete i how => exact hsettles i rfl
  | timeOut i timeout => exact hsettles i rfl
  | fault i fault => exact hsettles i rfl
  | release i => exact hsettles i rfl

end Opening

/-! ## During an open period -/

/-- Every attempt and every check among several uses is made before the end of a wait that began at
a reading. -/
def Early (u : Usage) (since wait : Nat) : List Use → Prop
  | [] => True
  | x :: rest =>
    (x = .acquire ∨ x = .check → u.now - since < wait) ∧ (u.use x).Early since wait rest

instance decidableEarly : ∀ (u : Usage) (since wait : Nat) (xs : List Use),
    Decidable (u.Early since wait xs)
  | _, _, _, [] => .isTrue trivial
  | u, since, wait, x :: rest =>
    have := decidableEarly (u.use x) since wait rest
    inferInstanceAs (Decidable ((x = .acquire ∨ x = .check → u.now - since < wait) ∧
      (u.use x).Early since wait rest))

/-- If the wait is not over after several uses, it was not over before. -/
theorem Unwrapped.early {since wait : Nat} {u : Usage} {xs : List Use}
    (hclock : (u.uses xs).Unwrapped) (hlast : (u.uses xs).now - since < wait) :
    u.Early since wait xs := by
  induction xs generalizing u with
  | nil => trivial
  | cons x rest ih =>
      have hle : u.now ≤ ((u.use x).uses rest).now := Unwrapped.now_le_uses (x :: rest) hclock
      exact ⟨fun _ => Nat.lt_of_le_of_lt (Nat.sub_le_sub_right hle since) hlast, ih hclock hlast⟩

section Waiting

variable {u : Usage} {period : OpenPeriod} (hpassive : u.circuit.callbacks.IsPassive)
  (hphase : u.circuit.breaker.phase = .opened period)

include hpassive hphase

/-- Before the end of the wait the breaker only counts rejections, and no permit comes alive. -/
theorem use_waiting (hstale : u.AllStale) {x : Use} (hreset : x ≠ .reset) (hforce : x ≠ .forceOpen)
    (hwaiting : x = .acquire ∨ x = .check → Breaker.waited period u.now = false) :
    (u.use x).circuit.breaker = u.circuit.breaker.refused ([x].count .acquire) ∧
      (u.use x).AllStale := by
  have hsettles : ∀ i, x.permit? = some i →
      (u.use x).circuit.breaker = u.circuit.breaker ∧ (u.use x).AllStale := by
    intro i hx
    cases hp : u.permits[i]? with
    | none =>
        rw [use, step_settle_none hpassive hx hp]
        exact ⟨rfl, hstale⟩
    | some p =>
        obtain ⟨told, hstep, _⟩ := step_settle hpassive hx hp
        rw [use, hstep, settled, Breaker.settle_stale (hstale p (List.mem_of_getElem? hp))]
        exact ⟨rfl, fun q hq => hstale q (List.mem_of_mem_eraseIdx hq)⟩
  cases x with
  | wait d => exact ⟨rfl, hstale⟩
  | acquire =>
      have hattempt := Breaker.attempt_waiting hphase (hwaiting (Or.inl rfl))
      rw [use, step_acquire_rejected hpassive hattempt]
      exact ⟨rfl, hstale⟩
  | check =>
      rw [use, step_check hpassive, Breaker.check_waiting hphase (hwaiting (Or.inr rfl))]
      exact ⟨rfl, hstale⟩
  | forceOpen => exact absurd rfl hforce
  | reset => exact absurd rfl hreset
  | complete i how => exact hsettles i rfl
  | timeOut i timeout => exact hsettles i rfl
  | fault i fault => exact hsettles i rfl
  | release i => exact hsettles i rfl

/-- If a circuit is still open after a use, and not by hand, then the use was none that ends an open
period. -/
theorem waiting_of_opened {x : Use} (hopened : (u.use x).state = .opened)
    (hunforced : (u.use x).circuit.breaker.isForced = false) :
    x ≠ .reset ∧ x ≠ .forceOpen ∧
      (x = .acquire ∨ x = .check → Breaker.waited period u.now = false) := by
  have hprobes : (u.use x).state = (u.circuit.breaker.check u.now).breaker.state →
      Breaker.waited period u.now = false := by
    intro hchecked
    by_contra hwaited
    rw [Bool.not_eq_false] at hwaited
    rw [hchecked, Breaker.check_waited hphase hwaited] at hopened
    cases hopened
  refine ⟨?_, ?_, ?_⟩
  · rintro rfl
    rw [state, use, step_reset hpassive] at hopened
    cases hopened
  · rintro rfl
    rw [use, step_forceOpen hpassive, put_breaker, Breaker.forceOpen_isForced] at hunforced
    cases hunforced
  · rintro (rfl | rfl)
    · exact hprobes (use_acquire_alike hpassive).state
    · apply hprobes
      rw [state, use, step_check hpassive]
      rfl

end Waiting

/-- During an open period the breaker only counts rejections, one for each attempt. -/
theorem Early.breaker_eq {u : Usage} {period : OpenPeriod} {xs : List Use}
    (h : u.Early period.since period.wait xs) (hpassive : u.circuit.callbacks.IsPassive)
    (hstale : u.AllStale) (hphase : u.circuit.breaker.phase = .opened period)
    (hunforced : period.forced = false) (hreset : .reset ∉ xs) (hforce : .forceOpen ∉ xs) :
    (u.uses xs).circuit.breaker = u.circuit.breaker.refused (xs.count .acquire) := by
  induction xs generalizing u with
  | nil => rfl
  | cons x rest ih =>
      obtain ⟨hx, hrest⟩ := List.ne_and_not_mem_of_not_mem_cons hreset
      obtain ⟨hy, hothers⟩ := List.ne_and_not_mem_of_not_mem_cons hforce
      obtain ⟨hbreaker, hstill⟩ := use_waiting hpassive hphase hstale hx.symm hy.symm
        fun hasked => (Breaker.waited_eq_false_iff hunforced).mpr (h.1 hasked)
      have hcallbacks : (u.use x).circuit.callbacks.IsPassive := passive_uses hpassive [x]
      have hsame : (u.use x).circuit.breaker.phase = .opened period := by
        rw [hbreaker]
        exact hphase
      have hafter := ih h.2 hcallbacks hstill hsame hrest hothers
      rw [hbreaker] at hafter
      have hcount : (x :: rest).count .acquire = [x].count .acquire + rest.count .acquire := by
        rw [List.count_cons, List.count_singleton, Nat.add_comm]
      refine hafter.trans ?_
      simp only [Breaker.refused, hcount, Nat.add_assoc]

/-! ## Attempts in an open period -/

/-- Every attempt on a circuit is refused in the given way: the breaker counts it and is otherwise
as it was, and a call never invokes its operation. -/
structure TurnsAway (u : Usage) (r : Rejection) : Prop where
  acquire : u.step .acquire = (u.put (u.circuit.breaker.refused 1), [.rejected r], .rejected r)
  call : ∀ {α : Type} {s : Session} {scope : Session.Scope} {service : Option String},
    s.Reaches scope service u →
    ∃ after i, after.Hosts i (u.put (u.circuit.breaker.refused 1)) ∧
      ∀ (steps : StepsRunner α) (result : Except Fault α) (took : Duration)
        (inside : List (Step α)),
        s.call steps scope service result took inside =
          (after, .call (.rejected (.of u.circuit.breaker.config r)) [])
  /-- The first turn of an asynchronous call. -/
  launch : ∀ {α : Type} {s : Session} {scope : Session.Scope} {service : Option String},
    s.Reaches scope service u →
    ∃ after i, after.Hosts i (u.put (u.circuit.breaker.refused 1)) ∧
      ∀ (steps : StepsRunner α) (job : Job α), job.service = service →
        s.launch steps scope job =
          (after, .ended (.execution (.rejected (.of u.circuit.breaker.config r)) []))

/-- A circuit that turns away callers turns away calls. -/
theorem turnsAway {u : Usage} {r : Rejection}
    (hstep : u.step .acquire = (u.put (u.circuit.breaker.refused 1), [.rejected r], .rejected r)) :
    u.TurnsAway r := by
  have huse : u.use .acquire = u.put (u.circuit.breaker.refused 1) := by
    rw [use, hstep]
  have hreply : u.reply .acquire = .rejected r := by
    rw [reply, hstep]
  refine ⟨hstep, ?_, ?_⟩
  · intro α s scope service hs
    obtain ⟨after, i, hafter, hcall⟩ := hs.call_rejected (α := α) hreply
    rw [huse] at hafter hcall
    exact ⟨after, i, hafter, hcall⟩
  · intro α s scope service hs
    obtain ⟨after, i, hafter, hlaunch⟩ := hs.launch_rejected (α := α) hreply
    rw [huse] at hafter hlaunch
    exact ⟨after, i, hafter, hlaunch⟩

/-- The next attempt or check begins a trial with an empty window and all permits; an attempt is
granted and takes one of them. -/
structure BeginsTrial (u : Usage) : Prop where
  check : (u.use .check).circuit.breaker = u.circuit.breaker.probed u.now 0 ∧
    (u.use .check).permits = u.permits ∧ u.reply .check = .state .halfOpen
  acquire : (u.use .acquire).circuit.breaker = u.circuit.breaker.probed u.now 1 ∧
    (u.use .acquire).permits = ⟨u.circuit.breaker.generation + 1, u.instant⟩ :: u.permits ∧
    u.reply .acquire = .granted
  announced : ∀ x, x = .check ∨ x = .acquire → (u.notes x).transitions =
    [⟨u.circuit.breaker.name, .opened, .halfOpen, u.now⟩]
  empty : ∀ taken now, (u.circuit.breaker.probed u.now taken).window.outcomes now = [] ∧
    (u.circuit.breaker.probed u.now taken).window.counts now = .empty
  call : ∀ {α : Type} {s : Session} {scope : Session.Scope} {service : Option String},
    s.Reaches scope service u → ∀ (steps : StepsRunner α) (result : Except Fault α)
      (took : Duration) (inside : List (Step α)),
      (s.call steps scope service result took inside).2.result? = some (.ofExcept result)
  /-- The first turn of an asynchronous call. -/
  launch : ∀ {α : Type} {s : Session} {scope : Session.Scope} {job : Job α},
    s.Reaches scope job.service u → ∀ steps : StepsRunner α,
      (s.launch steps scope job).2.result? = s.firstResult (u.use .acquire).circuit job

/-- When the wait is over the next attempt or check begins a trial. -/
theorem beginsTrial {u : Usage} {period : OpenPeriod} (hpassive : u.circuit.callbacks.IsPassive)
    (hphase : u.circuit.breaker.phase = .opened period)
    (hwaited : Breaker.waited period u.now = true)
    (htrial : 0 < u.circuit.breaker.config.trialCalls) : u.BeginsTrial := by
  have hstate : u.circuit.breaker.state = .opened :=
    Breaker.state_eq_opened_iff.mpr ⟨period, hphase⟩
  have htransition : (u.circuit.breaker.toTrial u.now).transition =
      some ⟨u.circuit.breaker.name, .opened, .halfOpen, u.now⟩ := by
    rw [← hstate]
    rfl
  have hcheck := step_check hpassive
  rw [Breaker.check_waited hphase hwaited] at hcheck
  have hacquire := step_acquire_granted hpassive (Breaker.attempt_waited hphase hwaited htrial)
  have hgranted : u.reply .acquire = .granted := by
    rw [reply, hacquire]
  refine
    { check := ?_
      acquire := ?_
      announced := ?_
      empty := fun taken now => ⟨Window.outcomes_clear now _, Window.counts_clear now _⟩
      call := fun hs => hs.call_granted hgranted
      launch := fun hs steps => hs.launch_granted hgranted steps _ rfl }
  · rw [use, reply, hcheck]
    exact ⟨rfl, rfl, rfl⟩
  · rw [use, reply, hacquire]
    exact ⟨rfl, rfl, rfl⟩
  · rintro x (rfl | rfl)
    · rw [notes, hcheck, Callbacks.transitions_announced, htransition]
      rfl
    · rw [notes, hacquire, Callbacks.transitions_announced, htransition]
      rfl

/-- A use that opens the circuit, and not by hand, begins an open period with the whole configured
wait; if it is an attempt, it is refused with that wait and counted. -/
theorem opening {config : Config} {u : Usage} (hu : u.Reachable config)
    (hpassive : u.circuit.callbacks.IsPassive) (hjitter : config.isJittered = false)
    (hbefore : u.state ≠ .opened) {entry : Use} (hopens : (u.use entry).state = .opened)
    (hunforced : (u.use entry).circuit.breaker.isForced = false) :
    (u.use entry).circuit.breaker.phase = .opened ⟨u.now, config.openWait.millis, false⟩ ∧
    (entry = .acquire →
      u.reply entry = .rejected ⟨u.circuit.breaker.name, .opened,
        .ofMillis config.openWait.millis⟩ ∧
      (u.use entry).circuit.breaker.rejections = u.circuit.breaker.rejections + 1) := by
  have hconfig := hu.config_eq
  subst hconfig
  obtain ⟨forced, hphase⟩ := phase_of_opening hpassive hjitter hbefore hopens
  have hnot : forced = false := by
    rw [Breaker.isForced, hphase] at hunforced
    exact hunforced
  subst hnot
  refine ⟨hphase, ?_⟩
  rintro rfl
  obtain ⟨period, _, _, hopened, hcounted, hreply⟩ :=
    acquire_opening hpassive hjitter hbefore hopens
  obtain rfl : period = ⟨u.now, u.circuit.breaker.config.openWait.millis, false⟩ :=
    Phase.opened.inj (hopened.symm.trans hphase)
  have hwhole : Breaker.openRetry ⟨u.now, u.circuit.breaker.config.openWait.millis, false⟩ u.now =
      .ofMillis u.circuit.breaker.config.openWait.millis := by
    simp [Breaker.openRetry]
  rw [hwhole] at hreply
  exact ⟨hreply, hcounted⟩

/-- The wait of an open period that a use began at a reading is the whole configured wait, whatever
is done in the period but a reset or a forced opening: attempts, checks and the late ends of calls
only make the breaker count rejections.  An attempt that begins the period itself, at the deadline
of a trial, is refused with the whole wait, and every attempt before the end of the wait with the
time that is left of it.  If no attempt and no check was made since the wait was over, the next one
begins a trial. -/
theorem open_admission {config : Config} {u : Usage} (hvalid : config.Valid)
    (hjitter : config.isJittered = false) (hu : u.Reachable config)
    (hpassive : u.circuit.callbacks.IsPassive) (hbefore : u.state ≠ .opened) {entry : Use}
    (hopens : (u.use entry).state = .opened)
    (hunforced : (u.use entry).circuit.breaker.isForced = false) :
    (entry = .acquire →
      u.reply entry = .rejected ⟨u.circuit.breaker.name, .opened,
        .ofMillis config.openWait.millis⟩ ∧
      (u.use entry).circuit.breaker.rejections = u.circuit.breaker.rejections + 1) ∧
    ∀ during, .reset ∉ during → .forceOpen ∉ during →
      let v := (u.use entry).uses during
      let waited := (u.use entry).circuit.breaker.refused (during.count .acquire)
      (v.Unwrapped → v.now - u.now < config.openWait.millis →
        v.circuit.breaker = waited ∧ 0 < config.openWait.millis - (v.now - u.now) ∧
        v.TurnsAway ⟨u.circuit.breaker.name, .opened,
          .ofMillis (config.openWait.millis - (v.now - u.now))⟩) ∧
      ((u.use entry).Early u.now config.openWait.millis during →
        config.openWait.millis ≤ v.now - u.now →
        v.circuit.breaker = waited ∧ v.BeginsTrial) := by
  have hconfig := hu.config_eq
  have hentered := hu.use entry
  obtain ⟨hphase, hfirst⟩ := opening hu hpassive hjitter hbefore hopens hunforced
  refine ⟨hfirst, ?_⟩
  intro during hreset hforce v waited
  have hquiet : (u.use entry).circuit.callbacks.IsPassive := passive_uses hpassive [entry]
  have hlater : v.circuit.callbacks.IsPassive := passive_uses hquiet during
  have hcounts : (u.use entry).Early u.now config.openWait.millis during →
      v.circuit.breaker = waited := fun hearly =>
    hearly.breaker_eq hquiet (hentered.allStale hopens) hphase rfl hreset hforce
  have hstill : v.circuit.breaker = waited →
      v.circuit.breaker.phase = .opened ⟨u.now, config.openWait.millis, false⟩ := by
    intro hbreaker
    rw [hbreaker]
    exact hphase
  refine ⟨?_, ?_⟩
  · intro hclock hleft
    have hbreaker := hcounts (hclock.early hleft)
    have hwaiting : Breaker.waited ⟨u.now, config.openWait.millis, false⟩ v.now = false :=
      (Breaker.waited_eq_false_iff rfl).mpr hleft
    have hname : v.circuit.breaker.name = u.circuit.breaker.name := by
      rw [hbreaker]
      exact hu.name_eq entry
    refine ⟨hbreaker, by omega, turnsAway ?_⟩
    rw [step_acquire_rejected hlater (Breaker.attempt_waiting (hstill hbreaker) hwaiting), ← hname]
    rfl
  · intro hearly hover
    have hbreaker := hcounts hearly
    refine ⟨hbreaker, beginsTrial hlater (hstill hbreaker) ?_ ?_⟩
    · simpa [Breaker.waited] using hover
    · rw [(hentered.uses during).config_eq]
      exact hvalid.trialCalls

/-- The call fails and opens the circuit.  Three milliseconds later there are two left to wait,
though there was an attempt and a check, and after these two the trial begins. -/
theorem open_admission_brief :
    ((busy.use (.complete 0 .failed)).uses [.acquire, .wait (.ofMillis 3), .check]).TurnsAway
      ⟨"db", .opened, .ofMillis 2⟩ ∧
    ((busy.use (.complete 0 .failed)).uses
      [.acquire, .wait (.ofMillis 3), .check, .wait (.ofMillis 2)]).BeginsTrial := by
  have hpassive : busy.circuit.callbacks.IsPassive := Or.inl rfl
  have hbefore : busy.state ≠ .opened := by
    decide +kernel
  have hopens : (busy.use (.complete 0 .failed)).state = .opened := by
    decide +kernel
  obtain ⟨_, hperiod⟩ := open_admission Config.brief_valid (by decide) busy_reachable hpassive
    hbefore hopens (by decide +kernel)
  have hclock : ((busy.use (.complete 0 .failed)).uses
      [.acquire, .wait (.ofMillis 3), .check]).Unwrapped := by
    unfold Unwrapped
    decide +kernel
  have hearly := (hperiod [.acquire, .wait (.ofMillis 3), .check] (by decide) (by decide)).1 hclock
    (by decide +kernel)
  have hlate := (hperiod [.acquire, .wait (.ofMillis 3), .check, .wait (.ofMillis 2)] (by decide)
    (by decide)).2 (by decide +kernel) (by decide +kernel)
  have hleft : (⟨busy.circuit.breaker.name, .opened, .ofMillis (Config.brief.openWait.millis -
      (((busy.use (.complete 0 .failed)).uses [.acquire, .wait (.ofMillis 3), .check]).now -
        busy.now))⟩ : Rejection) = ⟨"db", .opened, .ofMillis 2⟩ := by
    decide +kernel
  refine ⟨?_, hlate.2⟩
  rw [← hleft]
  exact hearly.2.2

end Usage

end FailFast
