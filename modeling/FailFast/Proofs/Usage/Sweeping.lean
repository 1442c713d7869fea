import FailFast.Proofs.Swept
import FailFast.Proofs.Usage.Calls

/-!
# Sweeping

A manager may apply the transitions due to its circuits at any time, or have it done in the
background.  If trials may last for ever, callers cannot tell whether this is done or how often: a
circuit that is swept is at most ahead of one that is not, and both answer every attempt, grant or
refuse every call and judge its end in the same way.

Main results:

- Theorem `Usage.Behind.step`: circuits of which the one is behind answer a caller in the same way,
  and the one stays behind.
- Theorem `Session.checkAll_checks` and theorem `Session.sweep_checks`: a sweep is some number of
  checks of each circuit.
- Theorem `Usage.sweeping_is_invisible`: checks at any more places change nothing that callers are
  told.
-/

namespace FailFast

namespace Usage

/-! ## Circuits behind others -/

/-- Circuits in use of which the first is behind; callers hold permits of the same attempts, which
are worth the same. -/
structure Behind (u v : Usage) : Prop where
  breaker : u.circuit.breaker.Behind u.now v.circuit.breaker
  clock : u.circuit.clock = v.circuit.clock
  classifier : u.circuit.classifier = v.circuit.classifier
  instant : u.instant = v.instant
  first : u.circuit.callbacks.IsPassive
  second : v.circuit.callbacks.IsPassive
  permits : ∃ pairs : List (Permit × Permit), u.permits = pairs.map Prod.fst ∧
    v.permits = pairs.map Prod.snd ∧ ∀ pair ∈ pairs, pair.1.grantedAt = pair.2.grantedAt ∧
      u.circuit.breaker.Matched v.circuit.breaker pair.1.generation pair.2.generation

/-- What a caller is told who does something with either circuit is the same, and one stays behind
the other. -/
structure ToldAlike (a b : Usage × Journal × Reply) : Prop where
  behind : Behind a.1 b.1
  reply : a.2.2 = b.2.2

namespace Behind

variable {u v : Usage} (h : Behind u v)

include h

theorem now : u.now = v.now := by
  rw [Usage.now, Usage.now, Circuit.now, Circuit.now, h.clock, h.instant]

/-- Operations on both breakers. -/
theorem put {c d : Breaker}
    (hbrings : Breaker.Brings u.now u.circuit.breaker v.circuit.breaker c d) :
    Behind (u.put c) (v.put d) := by
  obtain ⟨pairs, hfirst, hsecond, hmatched⟩ := h.permits
  refine { h with breaker := hbrings.behind, permits := ⟨pairs, hfirst, hsecond, ?_⟩ }
  intro pair hpair
  exact ⟨(hmatched pair hpair).1, hbrings.matched (hmatched pair hpair).2⟩

/-- Callers are granted permits that are worth the same. -/
theorem grant {g k : Nat} (hnew : u.circuit.breaker.Matched v.circuit.breaker g k) :
    Behind { u with permits := ⟨g, u.instant⟩ :: u.permits }
      { v with permits := ⟨k, v.instant⟩ :: v.permits } := by
  obtain ⟨pairs, hfirst, hsecond, hmatched⟩ := h.permits
  refine { h with permits := ⟨(⟨g, u.instant⟩, ⟨k, v.instant⟩) :: pairs, ?_, ?_, ?_⟩ }
  · rw [List.map_cons, hfirst]
  · rw [List.map_cons, hsecond]
  · intro pair hpair
    rcases List.mem_cons.mp hpair with rfl | hold
    · exact ⟨h.instant, hnew⟩
    · exact hmatched pair hold

/-- Callers use up permits of the same attempt. -/
theorem erase (i : Nat) :
    Behind { u with permits := u.permits.eraseIdx i }
      { v with permits := v.permits.eraseIdx i } := by
  obtain ⟨pairs, hfirst, hsecond, hmatched⟩ := h.permits
  refine { h with permits := ⟨pairs.eraseIdx i, ?_, ?_, ?_⟩ }
  · rw [hfirst, List.eraseIdx_map]
  · rw [hsecond, List.eraseIdx_map]
  · exact fun pair hpair => hmatched pair (List.mem_of_mem_eraseIdx hpair)

/-- What a use reports of calls that were granted permits of the same attempt is the same. -/
theorem outcome? {p q : Permit} (hgranted : p.grantedAt = q.grantedAt) (x : Use) :
    u.outcome? p x = v.outcome? q x := by
  have helapsed : p.elapsed u.instant = q.elapsed v.instant := by
    rw [Permit.elapsed, Permit.elapsed, hgranted, h.instant]
  cases x <;>
    simp only [Usage.outcome?, helapsed, h.now, h.classifier, h.breaker.name]

/-- Settling permits of the same attempt. -/
theorem settled {p q : Permit} (hgranted : p.grantedAt = q.grantedAt)
    (hmatched : u.circuit.breaker.Matched v.circuit.breaker p.generation q.generation) (x : Use) :
    Behind (u.put (u.settled p x).breaker) (v.put (v.settled q x).breaker) ∧
      (u.settled p x).transition = (v.settled q x).transition := by
  unfold Usage.settled
  rw [h.outcome? hgranted, ← h.now]
  cases v.outcome? q x with
  | none => exact ⟨h.put (h.breaker.release hmatched), rfl⟩
  | some o =>
      obtain ⟨hbrings, htransition⟩ := h.breaker.complete hmatched o
      exact ⟨h.put hbrings, htransition⟩

/-- Using up permits of the same attempt makes the same transition or none. -/
theorem settle {x : Use} {i : Nat} (hx : x.permit? = some i) :
    ToldAlike (u.step x) (v.step x) ∧ (u.notes x).transitions = (v.notes x).transitions := by
  obtain ⟨pairs, hfirst, hsecond, hmatched⟩ := h.permits
  have hp : u.permits[i]? = pairs[i]?.map Prod.fst := by
    rw [hfirst, List.getElem?_map]
  have hq : v.permits[i]? = pairs[i]?.map Prod.snd := by
    rw [hsecond, List.getElem?_map]
  rw [notes, notes]
  cases hpair : pairs[i]? with
  | none =>
      rw [hpair] at hp hq
      rw [step_settle_none h.first hx hp, step_settle_none h.second hx hq]
      exact ⟨⟨h, rfl⟩, rfl⟩
  | some pair =>
      rw [hpair] at hp hq
      obtain ⟨hgranted, hworth⟩ := hmatched pair (List.mem_of_getElem? hpair)
      obtain ⟨hsettled, htransition⟩ := h.settled hgranted hworth x
      obtain ⟨told, hstep, htold⟩ := step_settle h.first hx hp
      obtain ⟨heard, hother, hheard⟩ := step_settle h.second hx hq
      rw [hstep, hother]
      refine ⟨⟨hsettled.erase i, rfl⟩, ?_⟩
      rw [htold, hheard, htransition]

/-- A caller is told the same, and one circuit stays behind the other as time does not go back. -/
theorem step (x : Use) (hnow : u.now ≤ (u.use x).now) : ToldAlike (u.step x) (v.step x) := by
  have hreading := h.now
  cases x with
  | wait d =>
      have hlater : (u.step (.wait d)).1.circuit.breaker.Behind (u.step (.wait d)).1.now
          (v.step (.wait d)).1.circuit.breaker := h.breaker.later hnow
      exact ⟨{ h with breaker := hlater, instant := congrArg (· + d.nanos) h.instant }, rfl⟩
  | acquire =>
      obtain ⟨hbrings, hverdict⟩ := h.breaker.attempt
      rw [step_acquire h.first, step_acquire h.second, ← hreading]
      generalize u.circuit.breaker.attempt u.now = attempted at hbrings hverdict ⊢
      generalize v.circuit.breaker.attempt u.now = other at hbrings hverdict ⊢
      obtain ⟨m, verdict⟩ := attempted
      obtain ⟨n, answer⟩ := other
      cases hverdict with
      | granted hmatched => exact ⟨(h.put hbrings).grant hmatched, rfl⟩
      | rejected state retryAfter =>
          have hcounted := hbrings.trans hbrings.behind.countRejection
          refine ⟨h.put hcounted, ?_⟩
          exact congrArg (fun name => Reply.rejected ⟨name, state, retryAfter⟩) hbrings.behind.name
  | check =>
      obtain ⟨hbrings, hstate⟩ := h.breaker.check
      rw [step_check h.first, step_check h.second, ← hreading]
      exact ⟨h.put hbrings, congrArg Reply.state hstate⟩
  | forceOpen =>
      rw [step_forceOpen h.first, step_forceOpen h.second, ← hreading]
      exact ⟨h.put h.breaker.forceOpen, rfl⟩
  | reset =>
      rw [step_reset h.first, step_reset h.second, ← hreading]
      exact ⟨h.put h.breaker.reset, rfl⟩
  | complete i how => exact (h.settle rfl).1
  | timeOut i timeout => exact (h.settle rfl).1
  | fault i fault => exact (h.settle rfl).1
  | release i => exact (h.settle rfl).1

/-- The circuit ahead is swept. -/
theorem sweep : Behind u (v.use .check) := by
  have hswept := h.put h.breaker.sweep
  rw [h.now] at hswept
  rw [use, step_check h.second]
  exact hswept

end Behind

/-- Whatever callers made of a circuit is behind itself. -/
theorem Reachable.behind {config : Config} {u : Usage} (hjitter : config.isJittered = false)
    (htrial : config.trialWait = none) (hu : u.Reachable config)
    (hpassive : u.circuit.callbacks.IsPassive) : Behind u u := by
  have hconfig := hu.config_eq
  have hphase : u.circuit.breaker.phase.Behind u.now u.circuit.breaker.config.trialCalls
      u.circuit.breaker.phase := by
    cases u.circuit.breaker.phase with
    | closed => exact .closed
    | opened period => exact .opened period
    | halfOpen trial => exact .trial trial trial.since
  have hbreaker : u.circuit.breaker.Behind u.now u.circuit.breaker :=
    ⟨rfl, rfl, rfl, hphase, fun _ => rfl, rfl, hconfig.symm ▸ hjitter, hconfig.symm ▸ htrial⟩
  have hmatched : ∀ p ∈ u.permits,
      u.circuit.breaker.Matched u.circuit.breaker p.generation p.generation := by
    intro p hp
    rcases Nat.lt_or_eq_of_le (hu.generation_le hp) with hstale | hlive
    · exact .stale hstale hstale
    · exact .live hlive.symm hlive.symm fun hopened => hu.allStale hopened p hp hlive.symm
  refine ⟨hbreaker, rfl, rfl, rfl, hpassive, hpassive, u.permits.map fun p => (p, p), ?_, ?_, ?_⟩
  · rw [List.map_map]
    exact (List.map_id u.permits).symm
  · rw [List.map_map]
    exact (List.map_id u.permits).symm
  · intro pair hpair
    obtain ⟨p, hp, rfl⟩ := List.mem_map.mp hpair
    exact ⟨rfl, hmatched p hp⟩

/-! ## Runs with more checks -/

/-- The second list of uses is the first with checks at some more places. -/
inductive Swept : List Use → List Use → Prop where
  | nil : Swept [] []
  | use (x : Use) {xs ys : List Use} (h : Swept xs ys) : Swept (x :: xs) (x :: ys)
  | sweep {xs ys : List Use} (h : Swept xs ys) : Swept xs (.check :: ys)

/-- More checks at the end. -/
theorem Swept.more {xs ys : List Use} (h : Swept xs ys) (n : Nat) :
    Swept xs (ys ++ List.replicate n .check) := by
  induction h with
  | nil =>
      induction n with
      | zero => exact .nil
      | succ n ih => exact .sweep ih
  | use x _ ih => exact .use x ih
  | sweep _ ih => exact .sweep ih

/-- What callers are told of two circuits, whatever they do next, is the same: every attempt is
granted or refused in the same way, the same number was refused, both are forced open or neither is,
the end of a call opens or closes both or neither, and calls return the same. -/
structure Agrees (u v : Usage) : Prop where
  reply : ∀ x, u.reply x = v.reply x
  rejections : u.circuit.breaker.rejections = v.circuit.breaker.rejections
  isForced : u.circuit.breaker.isForced = v.circuit.breaker.isForced
  settled : ∀ x i, x.permit? = some i → (u.notes x).transitions = (v.notes x).transitions
  calls : u.CallsAgree v

/-- A circuit and one that it is behind agree. -/
theorem Behind.agrees {u v : Usage} (h : Behind u v) : u.Agrees v where
  reply := by
    intro x
    cases x with
    | wait d => rfl
    | _ => exact (h.step _ (Nat.le_of_eq (use_now h.first fun _ => Use.noConfusion).symm)).reply
  rejections := h.breaker.rejections
  isForced := h.breaker.isForced
  settled x i hx := (h.settle hx).2
  calls := by
    have hafter := h.step .acquire (Nat.le_of_eq (use_now h.first fun _ => Use.noConfusion).symm)
    exact callsAgree hafter.reply h.breaker.name hafter.behind.breaker.name
      hafter.behind.breaker.config

/-- However often the circuit ahead is swept, the other one stays behind. -/
theorem Behind.swept {u v : Usage} (h : Behind u v) {xs ys : List Use} (hswept : Swept xs ys)
    (hclock : (u.uses xs).Unwrapped) : Behind (u.uses xs) (v.uses ys) := by
  -- Only the clock of the first run counts: the inserted checks take no time.
  induction hswept generalizing u v with
  | nil => exact h
  | use x _ ih =>
      have hnow : u.now ≤ (u.use x).now := Unwrapped.now_le (Unwrapped.before_all hclock)
      exact ih (h.step x hnow).behind hclock
  | sweep _ ih => exact ih h.sweep hclock

end Usage

/-! ## Sweeps of a manager -/

namespace Session

/-- The second session differs from the first, as far as its circuits are concerned, in some number
of checks of each. -/
def Checks (s t : Session) : Prop :=
  s.IsPrompt → t.IsPrompt ∧
    ∀ i u, s.Hosts i u → ∃ n, t.Hosts i (u.uses (List.replicate n .check))

/-- Nothing is checked. -/
theorem Checks.of_fleet {s t : Session} (hcircuits : t.fleet.circuits = s.fleet.circuits)
    (hinstant : t.fleet.instant = s.fleet.instant) : s.Checks t := by
  intro hs
  refine ⟨?_, ?_⟩
  · rw [IsPrompt, hcircuits]
    exact hs
  · intro i u h
    refine ⟨0, ?_, hinstant.trans h.instant⟩
    rw [circuit?, hcircuits]
    exact h.circuit

/-- Some checks after others. -/
theorem Checks.trans {s t r : Session} (h : s.Checks t) (hnext : t.Checks r) : s.Checks r := by
  intro hs
  obtain ⟨ht, hfirst⟩ := h hs
  obtain ⟨hr, hsecond⟩ := hnext ht
  refine ⟨hr, ?_⟩
  intro i u hu
  obtain ⟨m, hm⟩ := hfirst i u hu
  obtain ⟨n, hn⟩ := hsecond i _ hm
  refine ⟨m + n, ?_⟩
  rw [← List.replicate_append_replicate, Usage.uses, List.foldl_append]
  exact hn

/-- One circuit is checked. -/
theorem checks_perform (s : Session) (j : Nat) :
    s.Checks { s with fleet := (s.fleet.perform j Circuit.check).1 } := by
  cases hc : s.fleet.circuits[j]? with
  | none =>
      simp only [Fleet.perform, hc]
      exact Checks.of_fleet rfl rfl
  | some c =>
      intro hs
      refine ⟨?_, ?_⟩
      · intro d hd
        simp only [Fleet.perform, hc] at hd
        rcases List.mem_or_eq_of_mem_set hd with hold | rfl
        · exact hs d hold
        · exact hs c (List.mem_of_getElem? hc)
      · intro i u h
        by_cases hij : j = i
        · subst hij
          obtain ⟨_, hcircuit, hinstant⟩ := h.perform Circuit.check
          exact ⟨1, hcircuit, hinstant⟩
        · refine ⟨0, (s.fleet.perform_other hij Circuit.check).trans h.circuit, ?_⟩
          have hthen : (c.check s.fleet.instant).2.1 = s.fleet.instant :=
            Circuit.check_instant (hs c (List.mem_of_getElem? hc)) _
          simp only [Fleet.perform, hc]
          exact hthen.trans h.instant

/-- Circuits are treated one after another. -/
theorem checks_foldl {β : Type} {step : Fleet → β → Fleet}
    (hstep : ∀ (s : Session) (b : β), s.Checks { s with fleet := step s.fleet b }) (s : Session)
    (bs : List β) : s.Checks { s with fleet := bs.foldl step s.fleet } := by
  induction bs generalizing s with
  | nil => exact Checks.of_fleet rfl rfl
  | cons b rest ih => exact (hstep s b).trans (ih { s with fleet := step s.fleet b })

/-- A manager checks its circuits. -/
theorem checkAll_checks (s : Session) (r : Registry) :
    s.Checks { s with fleet := r.checkAll s.fleet } := by
  refine checks_foldl ?_ s r.sorted
  intro s entry
  split
  · split
    · exact s.checks_perform entry.2
    · exact Checks.of_fleet rfl rfl
  · exact Checks.of_fleet rfl rfl

/-- So does the turn of a sweeper in the background. -/
theorem sweep_checks (s : Session) (k : Nat) : s.Checks (s.sweep k) := by
  unfold Session.sweep
  cases s.registry with
  | none => exact Checks.of_fleet rfl rfl
  | some r => exact (s.checkAll_checks r).trans (Checks.of_fleet rfl rfl)

end Session

namespace Usage

/-- Of two runs that differ only in checks at some more places of the second, nothing else can be
told apart at any point: what callers do next has the same answer, the same number of attempts was
refused, both circuits are forced open or neither is, the end of a call opens or closes both or
neither, and calls return the same.  When a manager sweeps circuits whose callbacks take no time,
at once or in the background, the second run has only got some more checks. -/
theorem sweeping_is_invisible {config : Config} {u : Usage} (hjitter : config.isJittered = false)
    (htrial : config.trialWait = none) (hu : u.Reachable config)
    (hpassive : u.circuit.callbacks.IsPassive) {xs ys : List Use} (hswept : Swept xs ys)
    (hclock : (u.uses xs).Unwrapped) :
    (u.uses xs).Agrees (u.uses ys) ∧
      ∀ (s : Session) (i : Nat), s.IsPrompt → s.Hosts i (u.uses ys) →
        (∀ r : Registry, ∃ more, Swept xs more ∧
          Session.Hosts { s with fleet := r.checkAll s.fleet } i (u.uses more)) ∧
        ∀ k, ∃ more, Swept xs more ∧ (s.sweep k).Hosts i (u.uses more) := by
  refine ⟨((hu.behind hjitter htrial hpassive).swept hswept hclock).agrees, ?_⟩
  intro s i hprompt hs
  have hmore : ∀ t, s.Checks t → ∃ more, Swept xs more ∧ t.Hosts i (u.uses more) := by
    intro t hchecks
    obtain ⟨n, hn⟩ := (hchecks hprompt).2 i _ hs
    refine ⟨ys ++ List.replicate n .check, hswept.more n, ?_⟩
    rw [Usage.uses, List.foldl_append]
    exact hn
  exact ⟨fun r => hmore _ (s.checkAll_checks r), fun k => hmore _ (s.sweep_checks k)⟩

/-- When its wait is over a circuit is still open, and one that is checked is in its trial, but no
caller can tell the one from the other. -/
theorem sweeping_is_invisible_brief :
    (busy.uses [.complete 0 .failed, .wait (.ofMillis 5)]).state = .opened ∧
      (busy.uses [.complete 0 .failed, .check, .wait (.ofMillis 5), .check]).state = .halfOpen ∧
      (busy.uses [.complete 0 .failed, .wait (.ofMillis 5)]).Agrees
        (busy.uses [.complete 0 .failed, .check, .wait (.ofMillis 5), .check]) := by
  have hswept : Swept [.complete 0 .failed, .wait (.ofMillis 5)]
      [.complete 0 .failed, .check, .wait (.ofMillis 5), .check] :=
    .use _ (.sweep (.use _ (.sweep .nil)))
  have hclock : (busy.uses [.complete 0 .failed, .wait (.ofMillis 5)]).Unwrapped := by
    unfold Unwrapped
    decide +kernel
  exact ⟨by decide +kernel, by decide +kernel,
    (sweeping_is_invisible (by decide) rfl busy_reachable (Or.inl rfl) hswept hclock).1⟩

end Usage

end FailFast
