import FailFast.Proofs.Usage.Calls
import FailFast.Proofs.Usage.Reset

/-!
# Asynchronous executions

An asynchronous call gets turns while others go on with their work and time passes.  Until its
operation is done or its timeout has passed a turn changes nothing.  So an operation that ends in
time leaves behind what a guarded call leaves behind whose operation took all that work along: the
same result, the same circuits and the same notes.  A call that is given up after its timeout is
recorded once, as slow and failed, and one that is dropped is not recorded at all.

What others do between two turns is any change of the session, so nothing depends on which other
callers there are, or on how often a call gets a turn without need.

Main results:

- Theorem `Session.poll_early` and theorem `Session.attend_arrives`: a call ends at the turn at
  which its time has come, and earlier turns do not count.
- Theorem `Circuit.recordsTimeout`: a timeout is recorded exactly once, or not at all by a stale
  permit.
- Theorem `Session.executeAll_alone` and theorem `Session.executeAll_dropped`: an executor gives a
  call its turn just when its time has come.
- Theorem `Session.execution_agrees_with_call`: an asynchronous call agrees with a guarded call.
-/

namespace FailFast

/-! ## Timeouts are recorded once -/

/-- The outcome of a permit of the present generation is recorded once, in any state. -/
theorem Breaker.live_recordsOnce {b : Breaker} {generation : Nat}
    (hlive : b.generation = generation) (now : Nat) (o : Outcome) :
    b.RecordsOnce now o (b.complete now generation o).breaker := by
  cases hphase : b.phase with
  | opened period =>
      rw [complete_opened hlive hphase]
      refine ⟨Or.inl rfl, ?_⟩
      intro trial after htrial
      rw [hphase] at htrial
      cases htrial
  | closed =>
      apply complete_recordsOnce hlive
      simp [state, hphase, Phase.state]
  | halfOpen trial =>
      apply complete_recordsOnce hlive
      simp [state, hphase, Phase.state]

/-- An operation recorded nothing: the window and what a trial has counted are as before, and so are
the state and the generation. -/
structure Breaker.RecordsNothing (b next : Breaker) : Prop where
  alike : b.Alike next
  window : next.window = b.window
  trial : ∀ trial after, b.phase = .halfOpen trial → next.phase = .halfOpen after →
    after.counts = trial.counts

/-- Handing back a permit records nothing. -/
theorem Breaker.release_recordsNothing (b : Breaker) (generation : Nat) :
    b.RecordsNothing (b.release generation) where
  alike := b.release_alike generation
  window := b.release_window generation
  trial := by
    intro trial after htrial hafter
    by_cases hstale : b.generation ≠ generation
    · rw [release_stale hstale, htrial] at hafter
      cases hafter
      rfl
    · simp only [release, hstale, if_false, htrial] at hafter
      cases hafter
      rfl

namespace Circuit

/-- The outcome of a call that is given up at an instant. -/
def timeoutOf (c : Circuit) (instant : Instant) (p : Permit) : Outcome :=
  .timeout (p.elapsed instant).millis (c.now instant)

/-- What giving up a call after its timeout comes to.  By a stale permit nothing is recorded.  By
any other exactly one outcome is, which counts as a failure and as slow whatever the threshold, and
what callbacks then do about the transition that it causes comes after that. -/
structure RecordsTimeout (c : Circuit) (instant : Instant) (p : Permit) (timeout : Duration) :
    Prop where
  tally : ∀ (slowAt : Nat) (t : Tally),
    t.add slowAt (c.timeoutOf instant p) = { t with failures := t.failures + 1, slow := t.slow + 1 }
  trial : ∀ (slowAt : Nat) (t : TrialPeriod),
    t.count slowAt (c.timeoutOf instant p) =
      { t with completed := t.completed + 1, failures := t.failures + 1, slow := t.slow + 1 }
  stale : c.breaker.generation ≠ p.generation →
    c.timeOut instant p timeout =
      (c, instant, [.timedOut c.breaker.name timeout, .discarded c.breaker.name], ())
  live : c.breaker.generation = p.generation →
    ∃ m : Moved, c.breaker.RecordsOnce (c.now instant) (c.timeoutOf instant p) m.breaker ∧
      c.timeOut instant p timeout = c.perform instant fun s announce =>
        ((s.note (.timedOut c.breaker.name timeout)).settle announce m, ())

theorem recordsTimeout (c : Circuit) (instant : Instant) (p : Permit) (timeout : Duration) :
    c.RecordsTimeout instant p timeout where
  tally _ _ := rfl
  trial _ _ := rfl
  stale hstale := timeOut_stale hstale instant timeout
  live hlive := by
    refine ⟨_, Breaker.live_recordsOnce hlive (c.now instant) (c.timeoutOf instant p), ?_⟩
    simp only [timeOut, perform, Scene.complete, Scene.note, scene, ne_eq, hlive, not_true,
      ite_false]
    rfl

end Circuit

/-! ## Turns of a call -/

namespace Pending

variable {α : Type}

/-- The time at which a call ends: its operation is done or its timeout has passed. -/
def ends? (p : Pending α) : Option Nat := (Slot.pending p).times.min?

theorem ends?_eq_some_iff {p : Pending α} {e : Nat} :
    p.ends? = some e ↔ e ∈ (Slot.pending p).times ∧ ∀ time ∈ (Slot.pending p).times, e ≤ time :=
  List.min?_eq_some_iff

/-- Neither comes before the end. -/
theorem ends?_le {p : Pending α} {time : Nat} (h : time ∈ (Slot.pending p).times) :
    ∃ e, p.ends? = some e ∧ e ≤ time := by
  obtain ⟨e, he⟩ := Option.isSome_iff_exists.mp (List.isSome_min?_of_mem h)
  exact ⟨e, he, (ends?_eq_some_iff.mp he).2 time h⟩

end Pending

namespace Session

variable {α : Type}

/-- What others do, one after another. -/
def elapse (s : Session) (worlds : List (Session → Session)) : Session :=
  worlds.foldl (fun s world => world s) s

/-- Turns of a call, each after others did something. -/
def attend (steps : StepsRunner α) : Session → Slot α → List (Session → Session) → Session × Slot α
  | s, slot, [] => (s, slot)
  | s, slot, world :: rest =>
    let (s, slot) := (world s).turn steps slot
    attend steps s slot rest

/-- A time has come with the last thing that others did, and not before. -/
def Arrives (time : Nat) : Session → List (Session → Session) → Prop
  | s, [] => s.timer = time
  | s, world :: rest => s.timer < time ∧ Arrives time (world s) rest

theorem Arrives.timer {time : Nat} {s : Session} {worlds : List (Session → Session)}
    (h : s.Arrives time worlds) : (s.elapse worlds).timer = time := by
  induction worlds generalizing s with
  | nil => exact h
  | cons world rest ih => exact ih h.2

/-- A call that ended stays ended, and nothing more is done for it. -/
theorem attend_ended (steps : StepsRunner α) (s : Session) (answer : Answer α)
    (worlds : List (Session → Session)) :
    s.attend steps (.ended answer) worlds = (s.elapse worlds, .ended answer) := by
  induction worlds generalizing s with
  | nil => rfl
  | cons world rest ih => exact ih (world s)

/-- Turns after others. -/
theorem attend_append (steps : StepsRunner α) (s : Session) (slot : Slot α)
    (worlds more : List (Session → Session)) :
    s.attend steps slot (worlds ++ more) =
      (s.attend steps slot worlds).1.attend steps (s.attend steps slot worlds).2 more := by
  induction worlds generalizing s slot with
  | nil => rfl
  | cons world rest ih => exact ih _ _

/-- The end of an operation: it runs its steps, once, and the permit is used up by its result. -/
def conclude (steps : StepsRunner α) (s : Session) (i : Nat) (permit : Permit)
    (result : Except Fault α) (inside : List (Step α)) : Session × List (Report α) :=
  let (s, reports) := steps s inside
  let s := (s.finish i permit result).1
  ({ s with running := s.running - 1 }, reports)

/-- The end of a call that is given up after its timeout. -/
def giveUpLate (s : Session) (i : Nat) (permit : Permit) (timeout : Duration) : Session :=
  let s := s.change i fun c instant => c.timeOut instant permit timeout
  { s with running := s.running - 1 }

/-- The end of a call that is dropped. -/
def giveUpEarly (s : Session) (i : Nat) (permit : Permit) : Session :=
  let s := s.change i fun c instant => c.release instant permit
  { s with running := s.running - 1 }

section Turns

variable (steps : StepsRunner α) {s : Session} {p : Pending α}

/-- A turn before the end changes nothing. -/
theorem poll_early (hearly : ∀ e, p.ends? = some e → s.timer < e) :
    s.poll steps p = (s, .pending p) := by
  have htimes : ∀ time ∈ (Slot.pending p).times, s.timer < time := by
    intro time htime
    rcases p.ends?_le htime with ⟨e, he, hle⟩
    exact Nat.lt_of_lt_of_le (hearly e he) hle
  have hdue : s.reached p.due = false := by
    cases hdue : p.due with
    | none => rfl
    | some due =>
        have hlater := htimes due (by simp [Slot.times, hdue])
        simp [reached, hlater]
  rw [poll, hdue]
  cases hdeadline : p.deadline with
  | none => rfl
  | some deadline =>
      have hlater := htimes deadline.1 (by simp [Slot.times, hdeadline])
      simp [Nat.not_le.mpr hlater]

/-- A turn when the end has come ends the call. -/
theorem poll_ends {e : Nat} (hends : p.ends? = some e) (htime : e ≤ s.timer) :
    ∃ answer, (s.poll steps p).2 = .ended answer := by
  unfold poll
  by_cases hdone : s.reached p.due = true
  · simp [hdone]
  · have hmem := List.min?_mem hends
    simp only [Slot.times, List.mem_append, Option.mem_toList] at hmem
    rcases hmem with hdue | hdeadline
    · refine absurd ?_ hdone
      simp [reached, show p.due = some e from hdue, htime]
    · rcases Option.map_eq_some_iff.mp hdeadline with ⟨⟨deadline, timeout⟩, hp, rfl⟩
      simp only [hdone, hp, htime, if_true]
      exact ⟨_, rfl⟩

/-- A turn changes nothing or ends the call. -/
theorem poll_cases (s : Session) (p : Pending α) :
    s.poll steps p = (s, .pending p) ∨ ∃ x answer, s.poll steps p = (x, .ended answer) := by
  by_cases hcome : ∃ e, p.ends? = some e ∧ e ≤ s.timer
  · rcases hcome with ⟨e, hends, htime⟩
    rcases poll_ends steps hends htime with ⟨answer, hanswer⟩
    exact Or.inr ⟨_, answer, Prod.ext rfl hanswer⟩
  · refine Or.inl (poll_early steps fun e he => Nat.not_le.mp fun htime => hcome ⟨e, he, htime⟩)

/-- A turn when the operation is done. -/
theorem poll_due {due : Nat} (hdue : p.due = some due) (htime : due ≤ s.timer) :
    s.poll steps p =
      ((s.conclude steps p.circuit p.permit p.job.result p.job.inside).1,
        .ended (.execution (.ofExcept p.job.result)
          (s.conclude steps p.circuit p.permit p.job.result p.job.inside).2)) := by
  rw [poll, hdue, reached, decide_eq_true htime]
  simp only [if_true, finish_result]
  rfl

/-- A turn when the operation is not done and the timeout has passed. -/
theorem poll_deadline {deadline : Nat} {timeout : Duration} {c : Circuit}
    (hdue : ∀ due, p.due = some due → s.timer < due)
    (hdeadline : p.deadline = some (deadline, timeout)) (htime : deadline ≤ s.timer)
    (hc : s.circuit? p.circuit = some c) :
    s.poll steps p =
      (s.giveUpLate p.circuit p.permit timeout,
        .ended (.execution (.timedOut c.breaker.name timeout) [])) := by
  have hundone : s.reached p.due = false := by
    cases hp : p.due with
    | none => rfl
    | some due => simp [reached, hdue due hp]
  rw [poll, hundone, hdeadline]
  simp only [htime, if_true, hc, Option.map_some, Option.getD_some]
  rfl

/-- The first turn of a call and those after it come to the turn at which its end has come. -/
theorem attend_arrives {e : Nat} {worlds : List (Session → Session)} (hends : p.ends? = some e)
    (h : s.Arrives e worlds) :
    (s.poll steps p).1.attend steps (s.poll steps p).2 worlds =
      (s.elapse worlds).poll steps p := by
  induction worlds generalizing s with
  | nil => rfl
  | cons world rest ih =>
      have hearly : ∀ time, p.ends? = some time → s.timer < time := by
        intro time htime
        rw [hends] at htime
        cases htime
        exact h.1
      rw [poll_early steps hearly]
      exact ih h.2

/-- A call that is still running is as it was admitted, and its turns have changed nothing. -/
theorem attend_pending {q : Pending α} {worlds : List (Session → Session)}
    (h : (s.attend steps (.pending p) worlds).2 = .pending q) :
    s.attend steps (.pending p) worlds = (s.elapse worlds, .pending p) := by
  induction worlds generalizing s with
  | nil => rfl
  | cons world rest ih =>
      rw [attend, turn] at h ⊢
      rcases poll_cases steps (world s) p with hpending | ⟨x, answer, hended⟩
      · rw [hpending] at h ⊢
        exact ih h
      · rw [hended] at h
        simp [attend_ended] at h

end Turns

/-! ## The executor -/

/-- What an executor does until a time comes: it lets time pass, if any is left, and background work
run in it. -/
def waitUntil (now time : Nat) : List (Session → Session) :=
  if now < time then [fun s => s.passTo time] else []

theorem arrives_waitUntil {s : Session} {time : Nat} (h : s.timer ≤ time) :
    s.Arrives time (waitUntil s.timer time) := by
  unfold waitUntil
  by_cases hlater : s.timer < time
  · rw [if_pos hlater]
    exact ⟨hlater, rfl⟩
  · rw [if_neg hlater]
    exact Nat.le_antisymm h (Nat.not_lt.mp hlater)

section Executor

variable (steps : StepsRunner α) {scope : Scope} {s t : Session} {job : Job α} {p : Pending α}

/-- An executor is done when its only call has ended. -/
theorem await_ended (giveUpAt : Option Nat) (fuel : Nat) (s : Session) (answer : Answer α) :
    s.await steps giveUpAt fuel [.ended answer] = (s, [.ended answer]) := by
  cases fuel <;> simp [await]

/-- An executor lets time pass up to the next time at which its only call needs a turn or its caller
gives up, and then gives it a turn. -/
theorem await_turn {giveUpAt : Option Nat} {time : Nat} (hlater : s.timer < time)
    (hmem : time ∈ (Slot.pending p).times ++ giveUpAt.toList)
    (hfirst : ∀ other ∈ (Slot.pending p).times ++ giveUpAt.toList, time ≤ other) (fuel : Nat) :
    s.await steps giveUpAt (fuel + 1) [.pending p] =
      ((s.passTo time).poll steps p).1.await steps giveUpAt fuel
        [((s.passTo time).poll steps p).2] := by
  have hgoesOn : s.reached giveUpAt = false := by
    cases hg : giveUpAt with
    | none => rfl
    | some g =>
        have hle : time ≤ g := hfirst g (by simp [hg])
        simp [reached, Nat.lt_of_lt_of_le hlater hle]
  have hnext : ((Slot.pending p).times ++ giveUpAt.toList).min? = some time :=
    List.min?_eq_some_iff.mpr ⟨hmem, hfirst⟩
  rw [await]
  simp only [List.any_cons, Slot.isPending, Bool.true_or, Bool.not_true, hgoesOn,
    List.flatMap_cons, List.flatMap_nil, List.append_nil, hnext, turns, turn]
  rfl

/-- An executor gives its only call a turn when its end has come. -/
theorem executeAll_alone (hlaunch : s.launch steps scope job = t.poll steps p) {e : Nat}
    (hends : p.ends? = some e) {giveUpAfter : Option Duration}
    (hgiveUp : ∀ g, giveUpAfter.map s.deadline = some g → e ≤ g) :
    s.executeAll steps scope [job] giveUpAfter =
      (((t.elapse (waitUntil t.timer e)).poll steps p).1.endBackground,
        [((t.elapse (waitUntil t.timer e)).poll steps p).2.answer]) := by
  have hdone : ∀ x : Session, e ≤ x.timer → ∀ fuel,
      (x.poll steps p).1.await steps (giveUpAfter.map s.deadline) fuel [(x.poll steps p).2] =
        ((x.poll steps p).1, [(x.poll steps p).2]) := by
    intro x hx fuel
    rcases poll_ends steps hends hx with ⟨answer, hanswer⟩
    rw [hanswer]
    exact await_ended steps _ fuel _ answer
  simp only [executeAll, launchAll, hlaunch, waitUntil]
  by_cases hlater : t.timer < e
  · have hearly : t.poll steps p = (t, .pending p) := by
      apply poll_early
      intro time htime
      rw [hends] at htime
      cases htime
      exact hlater
    rw [hearly, if_pos hlater, List.length_singleton, await_turn steps hlater, hdone]
    · rfl
    · exact Nat.le_of_eq (moveTo_timer _ e).symm
    · exact List.mem_append_left _ (Pending.ends?_eq_some_iff.mp hends).1
    · intro time htime
      rcases List.mem_append.mp htime with htime | htime
      · exact (Pending.ends?_eq_some_iff.mp hends).2 time htime
      · exact hgiveUp time (Option.mem_toList.mp htime)
  · rw [if_neg hlater, hdone t (Nat.not_lt.mp hlater)]
    rfl

/-- An executor drops its only call when the caller gives up. -/
theorem await_dropped {g : Nat} (hreached : g ≤ s.timer) (fuel : Nat) :
    s.await steps (some g) (fuel + 1) [.pending p] =
      (s.giveUpEarly p.circuit p.permit, [.ended .cancelled]) := by
  simp only [await, List.any_cons, Slot.isPending, Bool.true_or, Bool.not_true, reached,
    decide_eq_true hreached, if_true, dropCalls, dropCall]
  rfl

/-- An executor whose caller gives up before the end of its only call drops it then. -/
theorem executeAll_dropped (hlaunch : s.launch steps scope job = t.poll steps p)
    {after : Duration} (hstart : t.timer ≤ s.deadline after)
    (hgiveUp : ∀ e, p.ends? = some e → s.deadline after < e) :
    s.executeAll steps scope [job] (some after) =
      (((t.elapse (waitUntil t.timer (s.deadline after))).giveUpEarly p.circuit p.permit
        ).endBackground, [.cancelled]) := by
  have hearly : ∀ x : Session, x.timer ≤ s.deadline after → x.poll steps p = (x, .pending p) :=
    fun x hx => poll_early steps fun e he => Nat.lt_of_le_of_lt hx (hgiveUp e he)
  simp only [executeAll, launchAll, hlaunch, hearly t hstart, List.length_singleton,
    Option.map_some, waitUntil]
  by_cases hlater : t.timer < s.deadline after
  · have hpassed : (t.passTo (s.deadline after)).timer = s.deadline after := moveTo_timer _ _
    rw [if_pos hlater, await_turn steps hlater, hearly _ (Nat.le_of_eq hpassed),
      await_dropped steps (Nat.le_of_eq hpassed.symm)]
    · rfl
    · simp
    · intro time htime
      rcases List.mem_append.mp htime with htime | htime
      · rcases p.ends?_le htime with ⟨e, he, hle⟩
        exact Nat.le_trans (Nat.le_of_lt (hgiveUp e he)) hle
      · exact Nat.le_of_eq (Option.some.inj (Option.mem_toList.mp htime))
  · rw [if_neg hlater, await_dropped steps (Nat.not_lt.mp hlater)]
    rfl

end Executor

/-! ## Admission -/

/-- An asynchronous call from its first turn on. -/
def execution (steps : StepsRunner α) (scope : Scope) (s : Session) (job : Job α)
    (worlds : List (Session → Session)) : Session × Slot α :=
  (s.launch steps scope job).1.attend steps (s.launch steps scope job).2 worlds

/-- A call at its first turn, when it was just admitted. -/
def admission (t : Session) (i : Nat) (permit : Permit) (timeout : Option Duration) (job : Job α) :
    Pending α where
  circuit := i
  permit := permit
  job := job
  due := job.took.map t.wakeTime
  deadline := timeout.map fun τ => (t.deadline τ, τ)

/-- The operation of a call ends a number of milliseconds after the admission, and no later than the
timeout. -/
structure InTime (t : Session) (timeout : Option Duration) (job : Job α) (d : Nat) : Prop where
  due : job.took.map t.wakeTime = some (t.timer + d)
  before : ∀ τ, timeout = some τ → d ≤ τ.millisUp

/-- The operation of a call ends after the timeout or never. -/
structure Late (t : Session) (timeout : Option Duration) (job : Job α) (τ : Duration) : Prop where
  timeout : timeout = some τ
  after : ∀ d, job.took.map t.wakeTime = some (t.timer + d) → τ.millisUp < d

/-- An operation of whole milliseconds is done after so many, unless it is a very long one. -/
theorem wakeTime_ofMillis (t : Session) {d : Nat} (hd : d ≤ longestSleep) :
    t.wakeTime (.ofMillis d) = t.timer + d := by
  have hmillis : (Duration.ofMillis d).millisUp = d := by
    simp only [Duration.millisUp, Duration.ofMillis]
    omega
  rw [wakeTime, hmillis, Nat.min_eq_left hd]

section Admission

variable {t : Session} {i : Nat} {permit : Permit} {timeout : Option Duration} {job : Job α}

/-- A call that was just admitted needs turns when its operation is done and when its timeout has
passed. -/
theorem mem_admission_times {time : Nat} :
    time ∈ (Slot.pending (t.admission i permit timeout job)).times ↔
      job.took.map t.wakeTime = some time ∨ timeout.map t.deadline = some time := by
  simp only [Slot.times, admission, Option.map_map, List.mem_append, Option.mem_toList]
  rfl

theorem InTime.ends {d : Nat} (h : t.InTime timeout job d) :
    (t.admission i permit timeout job).ends? = some (t.timer + d) := by
  refine Pending.ends?_eq_some_iff.mpr ⟨mem_admission_times.mpr (Or.inl h.due), ?_⟩
  intro time htime
  rcases mem_admission_times.mp htime with hdue | hdeadline
  · rw [h.due] at hdue
    exact Nat.le_of_eq (Option.some.inj hdue)
  · rcases Option.map_eq_some_iff.mp hdeadline with ⟨τ, hτ, rfl⟩
    exact Nat.add_le_add_left (h.before τ hτ) t.timer

/-- When the timeout passes such an operation is not done. -/
theorem Late.undone {τ : Duration} (h : t.Late timeout job τ) {due : Nat}
    (hdue : job.took.map t.wakeTime = some due) : t.timer + τ.millisUp < due := by
  rcases Option.map_eq_some_iff.mp hdue with ⟨d, _, hd⟩
  rw [wakeTime] at hd
  rw [← hd] at hdue ⊢
  exact Nat.add_lt_add_left (h.after _ hdue) _

theorem Late.ends {τ : Duration} (h : t.Late timeout job τ) :
    (t.admission i permit timeout job).ends? = some (t.deadline τ) := by
  refine Pending.ends?_eq_some_iff.mpr ⟨mem_admission_times.mpr (Or.inr ?_), ?_⟩
  · rw [h.timeout, Option.map_some]
  · intro time htime
    rcases mem_admission_times.mp htime with hdue | hdeadline
    · exact Nat.le_of_lt (h.undone hdue)
    · rw [h.timeout] at hdeadline
      exact Nat.le_of_eq (Option.some.inj hdeadline)

/-- A call does not end before it is admitted. -/
theorem le_ends {e : Nat} (hends : (t.admission i permit timeout job).ends? = some e) :
    t.timer ≤ e := by
  rcases mem_admission_times.mp (Pending.ends?_eq_some_iff.mp hends).1 with hdue | hdeadline
  · rcases Option.map_eq_some_iff.mp hdue with ⟨d, _, rfl⟩
    exact Nat.le_add_right _ _
  · rcases Option.map_eq_some_iff.mp hdeadline with ⟨τ, _, rfl⟩
    exact Nat.le_add_right _ _

end Admission

/-! ## Calls and executions -/

/-- The time that the operation of a guarded call takes is part of what goes on while it runs. -/
theorem call_took (steps : StepsRunner α) (scope : Scope) (s : Session) (service : Option String)
    (result : Except Fault α) (took : Duration) (inside : List (Step α)) :
    s.call steps scope service result took inside =
      s.call (fun x inside => steps { x with fleet := x.fleet.wait took } inside) scope service
        result .zero inside := by
  unfold call
  split
  · rfl
  · split <;> rfl

/-- A call in a scope is refused: it ends at once with the rejection, in both forms and whatever its
operation is, and nothing happens but the attempt. -/
structure Refuses (s : Session) (scope : Scope) (service : Option String) (after : Session)
    (r : Rejected) : Prop where
  call : ∀ {α : Type} (steps : StepsRunner α) (result : Except Fault α) (took : Duration)
    (inside : List (Step α)),
    s.call steps scope service result took inside = (after, .call (.rejected r) [])
  execution : ∀ {α : Type} (steps : StepsRunner α) (job : Job α), job.service = service →
    ∀ worlds, s.execution steps scope job worlds =
      (after.elapse worlds, .ended (.execution (.rejected r) []))

/-- A call in a scope is admitted: it is under way in the session `t` with a permit of the circuit
of a number. -/
structure Admits (s : Session) (scope : Scope) (service : Option String) (t : Session) (i : Nat)
    (permit : Permit) (timeout : Option Duration) : Prop where
  timer : t.timer = s.timer
  call : ∀ {α : Type} (steps : StepsRunner α) (result : Except Fault α) (inside : List (Step α)),
    s.call steps scope service result .zero inside =
      ((t.conclude steps i permit result inside).1,
        .call (.ofExcept result) (t.conclude steps i permit result inside).2)
  launch : ∀ {α : Type} (steps : StepsRunner α) (job : Job α), job.service = service →
    s.launch steps scope job = t.poll steps (t.admission i permit timeout job)

section Attempts

variable {s : Session} {scope : Scope} {service : Option String} {u : Usage} {config : Config}

/-- A call on a circuit that refuses it. -/
theorem Reaches.refuses (h : s.Reaches scope service u) (hu : u.Reachable config) {r : Rejection}
    (hreply : u.reply .acquire = .rejected r) :
    ∃ after i, after.Hosts i (u.use .acquire) ∧
      s.Refuses scope service after (.of config r) := by
  obtain ⟨t, i, hcallee, hhosts⟩ := h
  have hacquire := hhosts.acquire_rejected hreply
  rw [(hu.use .acquire).config_eq] at hacquire
  refine ⟨t.attempted i, i, hhosts.attempted, ?_, ?_⟩
  · intro α steps result took inside
    simp only [Session.call, hcallee, hacquire]
  · intro α steps job hservice worlds
    simp only [Session.execution, Session.launch, hservice, hcallee, hacquire]
    exact attend_ended steps _ _ worlds

/-- A call on a circuit that grants it. -/
theorem Reaches.admits (h : s.Reaches scope service u) (hu : u.Reachable config)
    (hreply : u.reply .acquire = .granted) :
    ∃ t i permit, t.Hosts i (u.use .acquire) ∧ (u.use .acquire).permits = permit :: u.permits ∧
      s.Admits scope service t i permit config.callTimeout := by
  obtain ⟨t, i, hcallee, hhosts⟩ := h
  obtain ⟨permit, hacquire, hpermits⟩ := hhosts.acquire_granted hreply
  have hafter := hhosts.attempted
  have htimer : (t.attempted i).timer = s.timer := callee_timer (t := t) hcallee
  have htimeout : ((t.attempted i).circuit? i).bind (·.breaker.config.callTimeout) =
      config.callTimeout := by
    rw [hafter.circuit, Option.bind_some, (hu.use .acquire).config_eq]
  refine ⟨{ t.attempted i with running := (t.attempted i).running + 1 }, i, permit,
    ⟨hafter.circuit, hafter.instant⟩, hpermits, htimer, ?_, ?_⟩
  · intro α steps result inside
    simp only [Session.call, hcallee, hacquire, finish_result]
    rfl
  · intro α steps job hservice
    simp only [Session.launch, hservice, hcallee, hacquire, htimeout]
    rfl

end Attempts

/-- An asynchronous call that was admitted and a guarded call agree, whatever others do while the
operation runs. -/
structure Agrees (s : Session) (scope : Scope) (service : Option String) (t : Session) (i : Nat)
    (permit : Permit) (timeout : Option Duration) : Prop where
  /-- An operation that ends in time is run once.  Both forms return its result and leave the same
  session behind. -/
  inTime : ∀ {α : Type} (steps : StepsRunner α) (job : Job α), job.service = service →
    ∀ d, t.InTime timeout job d → ∀ worlds, t.Arrives (t.timer + d) worlds →
    ∃ after reports,
      (t.elapse worlds).conclude steps i permit job.result job.inside = (after, reports) ∧
      s.execution steps scope job worlds =
        (after, .ended (.execution (.ofExcept job.result) reports)) ∧
      s.call (fun x inside => steps (x.elapse worlds) inside) scope service job.result .zero
        job.inside = (after, .call (.ofExcept job.result) reports)
  /-- Otherwise the call is given up when its timeout has passed, which is recorded once or, with a
  stale permit, not at all. -/
  late : ∀ {α : Type} (steps : StepsRunner α) (job : Job α), job.service = service →
    ∀ τ, t.Late timeout job τ → ∀ worlds, t.Arrives (t.deadline τ) worlds →
    ∀ c, (t.elapse worlds).circuit? i = some c →
      s.execution steps scope job worlds =
        ((t.elapse worlds).giveUpLate i permit τ,
          .ended (.execution (.timedOut c.breaker.name τ) [])) ∧
      ((t.elapse worlds).giveUpLate i permit τ).circuit? i =
        some (c.timeOut (t.elapse worlds).fleet.instant permit τ).1 ∧
      c.RecordsTimeout (t.elapse worlds).fleet.instant permit τ
  /-- Once it has ended nothing more is done for it. -/
  afterwards : ∀ {α : Type} (steps : StepsRunner α) (job : Job α) (worlds : List (Session → Session))
    (answer : Answer α), (s.execution steps scope job worlds).2 = .ended answer →
    ∀ more, s.execution steps scope job (worlds ++ more) =
      ((s.execution steps scope job worlds).1.elapse more, .ended answer)
  /-- Until then it has done nothing but ask for admission, and if it is dropped it only hands back
  its permit. -/
  cancelled : ∀ {α : Type} (steps : StepsRunner α) (job : Job α), job.service = service →
    ∀ (worlds : List (Session → Session)) (p : Pending α),
    (s.execution steps scope job worlds).2 = .pending p →
    (s.execution steps scope job worlds).1 = t.elapse worlds ∧
    ∀ (x : Session) (c : Circuit), x.circuit? i = some c →
      x.dropCall (.pending p) = (x.giveUpEarly i permit, .ended .cancelled) ∧
      (x.giveUpEarly i permit).fleet =
        { x.fleet with
          circuits :=
            x.fleet.circuits.set i { c with breaker := c.breaker.release permit.generation } } ∧
      c.breaker.RecordsNothing (c.breaker.release permit.generation)
  /-- An executor with no other call gives it its turn when its end has come, if the caller waits
  for that. -/
  alone : ∀ {α : Type} (steps : StepsRunner α) (job : Job α), job.service = service →
    ∀ e, (t.admission i permit timeout job).ends? = some e →
    ∀ giveUpAfter : Option Duration, (∀ g, giveUpAfter.map s.deadline = some g → e ≤ g) →
      t.Arrives e (waitUntil t.timer e) ∧
      s.executeAll steps scope [job] giveUpAfter =
        ((s.execution steps scope job (waitUntil t.timer e)).1.endBackground,
          [(s.execution steps scope job (waitUntil t.timer e)).2.answer])
  /-- If the caller gives up before, the executor drops it. -/
  dropped : ∀ {α : Type} (steps : StepsRunner α) (job : Job α), job.service = service →
    ∀ after : Duration,
    (∀ e, (t.admission i permit timeout job).ends? = some e → s.deadline after < e) →
      s.executeAll steps scope [job] (some after) =
        (((t.elapse (waitUntil t.timer (s.deadline after))).giveUpEarly i permit).endBackground,
          [.cancelled])

section Agreement

variable {s t : Session} {scope : Scope} {service : Option String} {i : Nat} {permit : Permit}
  {timeout : Option Duration}

/-- An operation on a circuit of a session. -/
theorem change_circuit {c : Circuit} (h : s.circuit? i = some c)
    (operation : Circuit → Instant → Returned Unit) :
    (s.change i operation).circuit? i = some (operation c s.fleet.instant).1 := by
  have hcircuit : s.fleet.circuits[i]? = some c := h
  have hi : i < s.fleet.circuits.length := (List.getElem?_eq_some_iff.mp hcircuit).1
  simp only [circuit?, change, Fleet.change, Fleet.perform, hcircuit, List.getElem?_set_self hi]

/-- Dropping a call hands back its permit and does nothing else. -/
theorem giveUpEarly_fleet {c : Circuit} (h : s.circuit? i = some c) :
    (s.giveUpEarly i permit).fleet =
      { s.fleet with
        circuits :=
          s.fleet.circuits.set i { c with breaker := c.breaker.release permit.generation } } := by
  have hcircuit : s.fleet.circuits[i]? = some c := h
  simp [giveUpEarly, change, Fleet.change, Fleet.perform, hcircuit, Circuit.release,
    Circuit.perform, Circuit.scene, Scene.release, Scene.leave, Journal.transitions,
    Channel.publish]

section Admitted

variable {α : Type} (h : s.Admits scope service t i permit timeout) (steps : StepsRunner α)
  {job : Job α} (hservice : job.service = service)

include h hservice

/-- The turns of an admitted call are those of one that runs in the session left to it. -/
theorem Admits.execution_eq (worlds : List (Session → Session)) :
    s.execution steps scope job worlds =
      (t.poll steps (t.admission i permit timeout job)).1.attend steps
        (t.poll steps (t.admission i permit timeout job)).2 worlds := by
  rw [execution, h.launch steps job hservice]

/-- They come to the turn at which its end has come. -/
theorem Admits.execution_arrives {e : Nat}
    (hends : (t.admission i permit timeout job).ends? = some e) {worlds : List (Session → Session)}
    (harrives : t.Arrives e worlds) :
    s.execution steps scope job worlds =
      (t.elapse worlds).poll steps (t.admission i permit timeout job) :=
  (h.execution_eq steps hservice worlds).trans (attend_arrives steps hends harrives)

/-- If the operation ends in time, this is the turn at which it has ended. -/
theorem Admits.execution_inTime {d : Nat} (hd : t.InTime timeout job d)
    {worlds : List (Session → Session)} (harrives : t.Arrives (t.timer + d) worlds) :
    s.execution steps scope job worlds =
      (((t.elapse worlds).conclude steps i permit job.result job.inside).1,
        .ended (.execution (.ofExcept job.result)
          ((t.elapse worlds).conclude steps i permit job.result job.inside).2)) := by
  rw [h.execution_arrives steps hservice hd.ends harrives]
  exact poll_due steps hd.due (Nat.le_of_eq harrives.timer.symm)

/-- Otherwise it is the turn at which the timeout has passed. -/
theorem Admits.execution_late {τ : Duration} (hτ : t.Late timeout job τ)
    {worlds : List (Session → Session)} (harrives : t.Arrives (t.deadline τ) worlds)
    {c : Circuit} (hc : (t.elapse worlds).circuit? i = some c) :
    s.execution steps scope job worlds =
      ((t.elapse worlds).giveUpLate i permit τ,
        .ended (.execution (.timedOut c.breaker.name τ) [])) := by
  have hdeadline : (t.admission i permit timeout job).deadline = some (t.deadline τ, τ) := by
    simp only [admission, hτ.timeout, Option.map_some]
  have hundone : ∀ due, (t.admission i permit timeout job).due = some due →
      (t.elapse worlds).timer < due := by
    intro due hdue
    rw [harrives.timer]
    exact hτ.undone hdue
  rw [h.execution_arrives steps hservice hτ.ends harrives]
  exact poll_deadline steps hundone hdeadline (Nat.le_of_eq harrives.timer.symm) hc

end Admitted

/-- Calls that are admitted agree in both forms. -/
theorem Admits.agrees (h : s.Admits scope service t i permit timeout) :
    s.Agrees scope service t i permit timeout where
  inTime := by
    intro α steps job hservice d hd worlds harrives
    refine ⟨_, _, rfl, h.execution_inTime steps hservice hd harrives, ?_⟩
    exact h.call (fun x inside => steps (x.elapse worlds) inside) job.result job.inside
  late := by
    intro α steps job hservice τ hτ worlds harrives c hc
    exact ⟨h.execution_late steps hservice hτ harrives hc,
      change_circuit hc fun c instant => c.timeOut instant permit τ,
      c.recordsTimeout (t.elapse worlds).fleet.instant permit τ⟩
  afterwards := by
    intro α steps job worlds answer hended more
    simp only [execution] at hended ⊢
    rw [attend_append, hended]
    exact attend_ended steps _ answer more
  cancelled := by
    intro α steps job hservice worlds p hpending
    rw [h.execution_eq steps hservice] at hpending ⊢
    rcases poll_cases steps t (t.admission i permit timeout job) with
      hwaits | ⟨x, answer, hend⟩
    · rw [hwaits] at hpending ⊢
      have hattend := attend_pending steps hpending
      rw [hattend] at hpending ⊢
      cases hpending
      refine ⟨rfl, ?_⟩
      intro x c hc
      exact ⟨rfl, giveUpEarly_fleet hc, c.breaker.release_recordsNothing permit.generation⟩
    · rw [hend] at hpending
      simp [attend_ended] at hpending
  alone := by
    intro α steps job hservice e hends giveUpAfter hgiveUp
    have harrives := arrives_waitUntil (le_ends hends)
    refine ⟨harrives, ?_⟩
    rw [h.execution_arrives steps hservice hends harrives]
    exact executeAll_alone steps (h.launch steps job hservice) hends hgiveUp
  dropped := by
    intro α steps job hservice after hgiveUp
    have hstart : t.timer ≤ s.deadline after := by
      rw [h.timer]
      exact Nat.le_add_right _ _
    exact executeAll_dropped steps (h.launch steps job hservice) hstart hgiveUp

end Agreement

/-- An asynchronous call and a guarded call on a circuit agree.  If the circuit refuses them, both
end with the same rejection and no operation is run.  If it admits them, they agree as calls do that
are admitted, with the timeout of the circuit's configuration. -/
theorem execution_agrees_with_call {config : Config} {u : Usage} (hu : u.Reachable config)
    {s : Session} {scope : Scope} {service : Option String} (hs : s.Reaches scope service u) :
    (∃ r after i, u.reply .acquire = .rejected r ∧ after.Hosts i (u.use .acquire) ∧
      s.Refuses scope service after (.of config r)) ∨
    ∃ t i permit, u.reply .acquire = .granted ∧ t.Hosts i (u.use .acquire) ∧
      (u.use .acquire).permits = permit :: u.permits ∧ t.timer = s.timer ∧
      s.Agrees scope service t i permit config.callTimeout := by
  rcases reply_acquire u with hgranted | ⟨r, hrejected⟩
  · obtain ⟨t, i, permit, hhosts, hpermits, hadmits⟩ := hs.admits hu hgranted
    exact Or.inr ⟨t, i, permit, hgranted, hhosts, hpermits, hadmits.timer, hadmits.agrees⟩
  · obtain ⟨after, i, hhosts, hrefuses⟩ := hs.refuses hu hrejected
    exact Or.inl ⟨r, after, i, hrejected, hhosts, hrefuses⟩

/-- A new circuit gives up calls after twenty milliseconds. -/
def impatient : Usage :=
  .start "db" { Config.brief with callTimeout := some (.ofMillis 20) } .halves .none none 0

/-- An operation of twenty milliseconds ends in time there, one that takes a millisecond longer does
not. -/
theorem execution_agrees_with_call_impatient :
    ∃ t i permit,
      (ofCircuit impatient.circuit).Agrees (.circuit 0) none t i permit (some (.ofMillis 20)) ∧
      t.InTime (some (.ofMillis 20)) (Job.mk none (.ok 7) (some (.ofMillis 20)) []) 20 ∧
      t.Late (some (.ofMillis 20)) (Job.mk none (.ok 7) (some (.ofMillis 21)) [])
        (.ofMillis 20) := by
  have hreachable : impatient.Reachable { Config.brief with callTimeout := some (.ofMillis 20) } :=
    .start "db" .halves .none none 0
  have hreaches : (ofCircuit impatient.circuit).Reaches (.circuit 0) none impatient :=
    ⟨_, 0, rfl, rfl, rfl⟩
  have hgranted : impatient.reply .acquire = .granted := by decide +kernel
  rcases execution_agrees_with_call hreachable hreaches with
    ⟨r, _, _, hrejected, _⟩ | ⟨t, i, permit, _, _, _, _, hagrees⟩
  · rw [hgranted] at hrejected
    cases hrejected
  · refine ⟨t, i, permit, hagrees, ⟨?_, ?_⟩, rfl, ?_⟩
    · rw [Job.took, Option.map_some, wakeTime_ofMillis t (by decide)]
    · intro τ hτ
      cases hτ
      decide
    · intro d hd
      rw [Job.took, Option.map_some, wakeTime_ofMillis t (by decide)] at hd
      have hmillis : (Duration.ofMillis 20).millisUp = 20 := by decide
      have hd := Option.some.inj hd
      omega

end Session

end FailFast
