import FailFast.Proofs.Usage.Prompt
import FailFast.Scenario

/-!
# Guarded calls

A guarded call asks its circuit for a permit.  If it is refused, the call ends with the rejection
and the operation is never invoked.  If it is granted, what the call returns is up to the operation
and to the timeout: the circuit has no part in it any more.

Main results:

- Theorems `Session.Reaches.call_rejected`, `Session.Reaches.call_granted`,
  `Session.Reaches.launch_rejected` and `Session.Reaches.launch_granted`: what a call and the first
  turn of an asynchronous call come to.
- Theorem `Session.poll_result`: what a later turn comes to.
- Theorem `Usage.callsAgree`: circuits that give the same answer to an attempt give the same results
  of calls.
-/

namespace FailFast

/-! ## Results -/

/-- What a call returns whose operation ended. -/
def CallResult.ofExcept {α : Type} : Except Fault α → CallResult α
  | .ok value => .returned value
  | .error fault => .failed fault

/-- The result of a call in its answer. -/
def Answer.result? {α : Type} : Answer α → Option (CallResult α)
  | .call result _ => some result
  | .execution result _ => some result
  | _ => none

/-- The result of an asynchronous call that has ended. -/
def Slot.result? {α : Type} : Slot α → Option (CallResult α)
  | .pending _ => none
  | .ended answer => answer.result?

namespace Session

variable {α : Type}

/-- What an operation or its timeout comes to by now. -/
def resultBy (s : Session) (name : String) (result : Except Fault α) (due : Option Nat)
    (deadline : Option (Nat × Duration)) : Option (CallResult α) :=
  if s.reached due then some (.ofExcept result)
  else
    match deadline with
    | none => none
    | some (time, timeout) => if time ≤ s.timer then some (.timedOut name timeout) else none

/-- The result of an asynchronous call on a circuit of a name by its first turn. -/
def firstResult (s : Session) (c : Circuit) (job : Job α) : Option (CallResult α) :=
  s.resultBy c.breaker.name job.result (job.took.map s.wakeTime)
    (c.breaker.config.callTimeout.map fun d => (s.deadline d, d))

/-- What it comes to is a matter of the time alone. -/
theorem resultBy_congr {s t : Session} (h : s.timer = t.timer) (name : String)
    (result : Except Fault α) (due : Option Nat) (deadline : Option (Nat × Duration)) :
    s.resultBy name result due deadline = t.resultBy name result due deadline := by
  have hreached : ∀ time, s.reached time = t.reached time := by
    intro time
    cases time with
    | none => rfl
    | some time => simp only [reached, h]
  simp only [resultBy, hreached, h]

/-- And of the circuit's name and timeout. -/
theorem firstResult_congr {s t : Session} (h : s.timer = t.timer) {c d : Circuit}
    (hname : c.breaker.name = d.breaker.name) (hconfig : c.breaker.config = d.breaker.config)
    {job other : Job α} (hresult : job.result = other.result) (htook : job.took = other.took) :
    s.firstResult c job = t.firstResult d other := by
  have hwake : s.wakeTime = t.wakeTime := by
    funext d
    simp only [wakeTime, h]
  have hdeadline : s.deadline = t.deadline := by
    funext d
    simp only [deadline, h]
  rw [firstResult, firstResult, hname, hconfig, hresult, htook, hwake, hdeadline]
  exact resultBy_congr h _ _ _ _

@[simp]
theorem finish_result (s : Session) (i : Nat) (p : Permit) (result : Except Fault α) :
    (s.finish i p result).2 = .ofExcept result := by
  cases result <;> rfl

/-- What a turn of an asynchronous call comes to depends on the time only. -/
theorem poll_result (steps : StepsRunner α) (s : Session) (p : Pending α) {c : Circuit}
    (hc : s.circuit? p.circuit = some c) :
    (s.poll steps p).2.result? = s.resultBy c.breaker.name p.job.result p.due p.deadline := by
  unfold poll resultBy
  split
  · simp only [Slot.result?, Answer.result?, finish_result]
  · cases p.deadline with
    | none => rfl
    | some deadline =>
        obtain ⟨time, timeout⟩ := deadline
        dsimp only
        split
        · rw [hc]
          rfl
        · rfl

/-! ## Circuits of a session -/

/-- A circuit of a session is in use as given. -/
structure Hosts (s : Session) (i : Nat) (u : Usage) : Prop where
  circuit : s.circuit? i = some u.circuit
  instant : s.fleet.instant = u.instant

/-- The callbacks of the circuits of a session take no time, so that what is done to one circuit
leaves the others at the instant at which they are. -/
def IsPrompt (s : Session) : Prop := ∀ c ∈ s.fleet.circuits, c.callbacks.IsPrompt

/-- The session after an attempt. -/
def attempted (s : Session) (i : Nat) : Session :=
  { s with fleet := (s.fleet.perform i Circuit.acquire).1 }

section Attempts

variable {s : Session} {i : Nat} {u : Usage}

/-- An operation on the circuit of a session. -/
theorem Hosts.perform {β : Type} (h : s.Hosts i u)
    (operation : Circuit → Instant → Returned β) :
    (s.fleet.perform i operation).2 = some (operation u.circuit u.instant).2.2.2 ∧
      (s.fleet.perform i operation).1.circuits[i]? = some (operation u.circuit u.instant).1 ∧
      (s.fleet.perform i operation).1.instant = (operation u.circuit u.instant).2.1 := by
  have hcircuit : s.fleet.circuits[i]? = some u.circuit := h.circuit
  have hi : i < s.fleet.circuits.length := (List.getElem?_eq_some_iff.mp hcircuit).1
  simp only [Fleet.perform, hcircuit, h.instant, List.getElem?_set_self hi, and_self]

/-- A caller who asks for a permit asks the circuit. -/
theorem use_acquire_circuit (u : Usage) :
    (u.use .acquire).circuit = (u.circuit.acquire u.instant).1 ∧
      (u.use .acquire).instant = (u.circuit.acquire u.instant).2.1 := by
  simp only [Usage.use, Usage.step]
  split <;> exact ⟨rfl, rfl⟩

/-- An attempt leaves the circuit in use as it is after a caller asked for a permit. -/
theorem Hosts.attempted (h : s.Hosts i u) : (s.attempted i).Hosts i (u.use .acquire) := by
  obtain ⟨hcircuit, hinstant⟩ := use_acquire_circuit u
  obtain ⟨_, hafter, hthen⟩ := h.perform Circuit.acquire
  exact ⟨hafter.trans (congrArg some hcircuit.symm), hthen.trans hinstant.symm⟩

/-- A refused attempt. -/
theorem Hosts.acquire_rejected (h : s.Hosts i u) {r : Rejection}
    (hreply : u.reply .acquire = .rejected r) :
    s.acquire i =
      (s.attempted i, some (.error (.of (u.use .acquire).circuit.breaker.config r))) := by
  have hanswer : (u.circuit.acquire u.instant).2.2.2 = .error r := by
    simp only [Usage.reply, Usage.step] at hreply
    split at hreply
    · cases hreply
    · rename_i refusal hrefusal
      cases hreply
      exact hrefusal
  have hperform := (h.perform Circuit.acquire).1
  rw [hanswer] at hperform
  have hafter := h.attempted.circuit
  unfold Session.attempted at hafter ⊢
  unfold Session.acquire
  generalize s.fleet.perform i Circuit.acquire = performed at hperform hafter ⊢
  obtain ⟨f, answer⟩ := performed
  cases hperform
  simp only [hafter]

/-- A granted attempt; the caller then holds the permit. -/
theorem Hosts.acquire_granted (h : s.Hosts i u) (hreply : u.reply .acquire = .granted) :
    ∃ p, s.acquire i = (s.attempted i, some (.ok p)) ∧
      (u.use .acquire).permits = p :: u.permits := by
  obtain ⟨p, hanswer⟩ : ∃ p, (u.circuit.acquire u.instant).2.2.2 = .ok p := by
    simp only [Usage.reply, Usage.step] at hreply
    split at hreply
    · exact ⟨_, by assumption⟩
    · cases hreply
  have hperform := (h.perform Circuit.acquire).1
  rw [hanswer] at hperform
  refine ⟨p, ?_, ?_⟩
  · unfold Session.attempted Session.acquire
    generalize s.fleet.perform i Circuit.acquire = performed at hperform ⊢
    obtain ⟨f, answer⟩ := performed
    cases hperform
    rfl
  · simp only [Usage.use, Usage.step, hanswer]

/-- An attempt is granted or refused. -/
theorem reply_acquire (u : Usage) :
    u.reply .acquire = .granted ∨ ∃ r, u.reply .acquire = .rejected r := by
  simp only [Usage.reply, Usage.step]
  split
  · exact Or.inl rfl
  · exact Or.inr ⟨_, rfl⟩

end Attempts

/-! ## Calls -/

/-- A call in a scope, for a service if it names one, is made on a circuit in use. -/
def Reaches (s : Session) (scope : Scope) (service : Option String) (u : Usage) : Prop :=
  ∃ t i, s.callee scope service = some (t, i) ∧ t.Hosts i u

/-- Finding the circuit of a call takes no time. -/
theorem callee_timer {s t : Session} {scope : Scope} {service : Option String} {i : Nat}
    (h : s.callee scope service = some (t, i)) : t.timer = s.timer := by
  unfold callee targetIn at h
  split at h
  · cases h
    rfl
  · cases h
    rfl
  · cases h

section Calls

variable {s : Session} {scope : Scope} {service : Option String} {u : Usage}

/-- A call on a circuit that refuses it ends with the rejection, whatever its operation is: the
operation is not invoked, and nothing happens but the attempt. -/
theorem Reaches.call_rejected (h : s.Reaches scope service u) {r : Rejection}
    (hreply : u.reply .acquire = .rejected r) :
    ∃ after i, after.Hosts i (u.use .acquire) ∧
      ∀ (steps : StepsRunner α) (result : Except Fault α) (took : Duration)
        (inside : List (Step α)),
        s.call steps scope service result took inside =
          (after, .call (.rejected (.of (u.use .acquire).circuit.breaker.config r)) []) := by
  obtain ⟨t, i, hcallee, hhosts⟩ := h
  refine ⟨t.attempted i, i, hhosts.attempted, ?_⟩
  intro steps result took inside
  simp only [Session.call, hcallee, hhosts.acquire_rejected hreply]

/-- So does the first turn of an asynchronous call. -/
theorem Reaches.launch_rejected (h : s.Reaches scope service u) {r : Rejection}
    (hreply : u.reply .acquire = .rejected r) :
    ∃ after i, after.Hosts i (u.use .acquire) ∧
      ∀ (steps : StepsRunner α) (job : Job α), job.service = service →
        s.launch steps scope job = (after, .ended
          (.execution (.rejected (.of (u.use .acquire).circuit.breaker.config r)) [])) := by
  obtain ⟨t, i, hcallee, hhosts⟩ := h
  refine ⟨t.attempted i, i, hhosts.attempted, ?_⟩
  intro steps job hservice
  simp only [Session.launch, hservice, hcallee, hhosts.acquire_rejected hreply]

/-- A call on a circuit that grants it returns what its operation does. -/
theorem Reaches.call_granted (h : s.Reaches scope service u) (hreply : u.reply .acquire = .granted)
    (steps : StepsRunner α) (result : Except Fault α) (took : Duration) (inside : List (Step α)) :
    (s.call steps scope service result took inside).2.result? = some (.ofExcept result) := by
  obtain ⟨t, i, hcallee, hhosts⟩ := h
  obtain ⟨p, hacquire, _⟩ := hhosts.acquire_granted hreply
  simp only [Session.call, hcallee, hacquire, Answer.result?, finish_result]

/-- The first turn of an asynchronous call on a circuit that grants it. -/
theorem Reaches.launch_granted (h : s.Reaches scope service u)
    (hreply : u.reply .acquire = .granted) (steps : StepsRunner α) (job : Job α)
    (hservice : job.service = service) :
    (s.launch steps scope job).2.result? = s.firstResult (u.use .acquire).circuit job := by
  obtain ⟨t, i, hcallee, hhosts⟩ := h
  obtain ⟨p, hacquire, _⟩ := hhosts.acquire_granted hreply
  have hcircuit := hhosts.attempted.circuit
  have htimer : (t.attempted i).timer = s.timer := callee_timer (t := t) hcallee
  simp only [Session.launch, hservice, hcallee, hacquire, hcircuit, Option.bind_some]
  rw [poll_result steps _ _ (c := (u.use .acquire).circuit) hcircuit]
  exact firstResult_congr
    (s := { t.attempted i with running := (t.attempted i).running + 1 }) htimer rfl rfl rfl rfl

end Calls

end Session

/-! ## Circuits that cannot be told apart by calls -/

/-- Calls on two circuits return the same, wherever they are made and whatever else goes on. -/
structure Usage.CallsAgree (u v : Usage) : Prop where
  call : ∀ {α : Type} {s t : Session} {scope other : Session.Scope}
    {service another : Option String}, s.Reaches scope service u → t.Reaches other another v →
    ∀ (steps others : StepsRunner α) (result : Except Fault α) (took lasted : Duration)
      (inside within : List (Step α)),
      (s.call steps scope service result took inside).2.result? =
        (t.call others other another result lasted within).2.result?
  /-- The first turn of an asynchronous call. -/
  launch : ∀ {α : Type} {s t : Session} {scope other : Session.Scope} {job another : Job α},
    s.Reaches scope job.service u → t.Reaches other another.service v → s.timer = t.timer →
    job.result = another.result → job.took = another.took → ∀ steps others : StepsRunner α,
      (s.launch steps scope job).2.result? = (t.launch others other another).2.result?
  /-- A later turn. -/
  poll : ∀ {α : Type} {s t : Session} {p q : Pending α}, s.circuit? p.circuit = some u.circuit →
    t.circuit? q.circuit = some v.circuit → s.timer = t.timer → p.job.result = q.job.result →
    p.due = q.due → p.deadline = q.deadline → ∀ steps others : StepsRunner α,
      (s.poll steps p).2.result? = (t.poll others q).2.result?

/-- Circuits of one name and configuration that give the same answer to an attempt give the same
results of calls. -/
theorem Usage.callsAgree {u v : Usage} (hreply : u.reply .acquire = v.reply .acquire)
    (hname : u.circuit.breaker.name = v.circuit.breaker.name)
    (hafter : (u.use .acquire).circuit.breaker.name = (v.use .acquire).circuit.breaker.name)
    (hconfig : (u.use .acquire).circuit.breaker.config =
      (v.use .acquire).circuit.breaker.config) : u.CallsAgree v where
  call := by
    intro α s t scope other service another hs ht steps others result took lasted inside within
    rcases Session.reply_acquire u with hgranted | ⟨r, hrejected⟩
    · rw [hs.call_granted hgranted, ht.call_granted (hreply.symm.trans hgranted)]
    · obtain ⟨_, _, _, hu⟩ := hs.call_rejected (α := α) hrejected
      obtain ⟨_, _, _, hv⟩ := ht.call_rejected (α := α) (hreply.symm.trans hrejected)
      rw [hu, hv, hconfig]
  launch := by
    intro α s t scope other job another hs ht htimer hresult htook steps others
    rcases Session.reply_acquire u with hgranted | ⟨r, hrejected⟩
    · rw [hs.launch_granted hgranted steps job rfl,
        ht.launch_granted (hreply.symm.trans hgranted) others another rfl]
      exact Session.firstResult_congr htimer hafter hconfig hresult htook
    · obtain ⟨_, _, _, hu⟩ := hs.launch_rejected (α := α) hrejected
      obtain ⟨_, _, _, hv⟩ := ht.launch_rejected (α := α) (hreply.symm.trans hrejected)
      rw [hu steps job rfl, hv others another rfl, hconfig]
  poll := by
    intro α s t p q hp hq htimer hresult hdue hdeadline steps others
    rw [Session.poll_result steps s p hp, Session.poll_result others t q hq, hname, hresult, hdue,
      hdeadline]
    exact Session.resultBy_congr htimer _ _ _ _

end FailFast
