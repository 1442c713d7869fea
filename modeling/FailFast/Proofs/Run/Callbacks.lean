import FailFast.Circuit.Callbacks
import FailFast.Proofs.Journal
import FailFast.Proofs.Run

/-!
# Callbacks in a run

A circuit tells its callbacks of a transition in the middle of an operation, and hooks may act on
the breaker then, which tells the callbacks again, or they may take their time.  However deep this
goes, the breaker only sees a sequence of acts: the one that the operation began with, those of the
hooks, and at last the count of a rejection, or the permit that is handed over.  What every single
operation keeps while callbacks only watch is kept all the while, because each change of state is
announced as soon as it was made and before the next act.

A hook gives back or settles each permit that it takes before it returns.  That is why the permits
in the hands of callers are afterwards what the operation itself made of them.

Main results:

- Theorem `Run.Shows.settle` and theorem `Run.Shows.reset`: what is announced at once is shown.
- Theorem `Run.plays_announce`: what callbacks do is a sequence of acts, by induction on the depth
  to which hooks act.
- Theorem `Run.Plays.acquire`, theorem `Run.Plays.fault` and theorems `Run.Plays.complete`,
  `Run.Plays.check`, `Run.Plays.forceOpen`, `Run.Plays.reset`: so is every operation with its
  callbacks.
-/

namespace FailFast

/-- What is kept while callbacks only watch: when time passes, when something aside is noted, when
the breaker is left as it was but for what is not seen of it, when an operation makes a transition
or none, and when the breaker is reset. -/
structure Scene.Invariant (c : Callbacks) (P : Scene → Prop) : Prop where
  wait : ∀ s d, P s → P (s.wait d)
  note : ∀ s n, n.isAside = true → P s → P (s.note n)
  leave : ∀ s b, s.breaker.Alike b → P s → P (s.leave b false)
  settle : ∀ s m, s.breaker.Announces s.now m → P s → P (s.settle c.announcePassively m)
  reset : ∀ s, P s → P (s.reset c.announcePassively)

/-- Telling passive callbacks changes nothing but the notes. -/
theorem Scene.tell_passively (s : Scene) (c : Callbacks) (t : Option Transition) :
    s.tell c.announcePassively t =
      { s with journal := (s.tell c.announcePassively t).journal } := by
  cases t <;> rfl

/-- The clock is the same all the while. -/
theorem Scene.clock_invariant (c : Callbacks) (clock : Clock) :
    Scene.Invariant c fun s => s.clock = clock where
  wait _ _ hclock := hclock
  note _ _ _ hclock := hclock
  leave _ _ _ hclock := hclock
  settle s m _ hclock := by
    rw [Scene.settle, Scene.tell_passively]
    exact hclock
  reset s hclock := by
    rw [Scene.reset, Scene.tell_passively]
    exact hclock

/-- And time only goes on. -/
theorem Scene.later_invariant (c : Callbacks) (instant : Instant) :
    Scene.Invariant c fun s => instant ≤ s.instant where
  wait _ _ hle := Nat.le_add_right_of_le hle
  note _ _ _ hle := hle
  leave _ _ _ hle := hle
  settle s m _ hle := by
    rw [Scene.settle, Scene.tell_passively]
    exact hle
  reset s hle := by
    rw [Scene.reset, Scene.tell_passively]
    exact hle

/-- All listeners are told of what is announced at once. -/
theorem Scene.told_invariant (c : Callbacks) :
    Scene.Invariant c fun s => s.journal.Told c.listeners where
  wait _ _ htold := htold
  note _ _ hn htold := htold.append (Journal.told_aside hn c.listeners)
  leave _ _ _ htold := htold
  settle s m hm htold := by
    unfold Scene.settle
    cases hm with
    | nothing hnone => rwa [hnone]
    | change t hsome _ _ htarget =>
        have hannounced := Journal.told_announcement c t
        rw [htarget] at hannounced
        rw [hsome]
        exact htold.append hannounced
  reset s htold := by
    have hnoted := htold.append (Journal.told_reset s.breaker.name c.listeners)
    unfold Scene.reset
    by_cases hclosed : s.breaker.state = .closed
    · have hnone : (s.breaker.reset s.now).transition = none := if_pos hclosed
      rwa [hnone]
    · have hsome : (s.breaker.reset s.now).transition =
          some ⟨s.breaker.name, s.breaker.state, .closed, s.now⟩ := if_neg hclosed
      rw [hsome]
      exact hnoted.append (Journal.told_announcement c ⟨_, _, .closed, _⟩)

namespace Run

/-! ## From one moment to another -/

/-- Acts lead to another moment of a run, at which callers hold the given tickets and so many
rejections are not counted yet. -/
structure Within (r : Run) (tickets : List Ticket) (uncounted : Nat) (next : Run) : Prop where
  acts : ∃ as, next = r.acts as
  tickets : next.tickets = tickets
  uncounted : next.uncounted = uncounted

/-- No acts at all. -/
theorem Within.refl (r : Run) : r.Within r.tickets r.uncounted r :=
  ⟨⟨[], rfl⟩, rfl, rfl⟩

/-- A single act. -/
theorem within_act (r : Run) (a : Act) :
    r.Within (r.act a).tickets (r.act a).uncounted (r.act a) :=
  ⟨⟨[a], rfl⟩, rfl, rfl⟩

/-- Acts and then further acts. -/
theorem Within.trans {r mid next : Run} {tickets held : List Ticket} {uncounted left : Nat}
    (hmid : r.Within tickets uncounted mid) (hnext : mid.Within held left next) :
    r.Within held left next := by
  obtain ⟨first, hfirst⟩ := hmid.acts
  obtain ⟨rest, hrest⟩ := hnext.acts
  refine ⟨⟨first ++ rest, ?_⟩, hnext.tickets, hnext.uncounted⟩
  rw [acts_append, ← hfirst]
  exact hrest

/-- A rejection that is not counted yet is counted. -/
theorem act_countRejection {r : Run} {rest : Nat} (hpending : r.uncounted = rest + 1) :
    r.act .countRejection = { r with breaker := r.breaker.countRejection, uncounted := rest } := by
  simp only [act, hpending, Nat.succ_pos, if_true, Nat.add_sub_cancel]

/-- And then the latest permit is handed to its caller. -/
theorem Within.handOver {r told : Run} {permit : Permit} {mark : Nat} {tickets : List Ticket}
    {uncounted : Nat} (h : r.Within (⟨permit, mark⟩ :: tickets) uncounted told) :
    r.Within (⟨⟨permit.generation, told.instant⟩, mark⟩ :: tickets) uncounted
      (told.act (.handOver 0)) := by
  have htickets : (told.act (.handOver 0)).tickets =
      ⟨⟨permit.generation, told.instant⟩, mark⟩ :: tickets := by
    simp only [act, h.tickets]
    rfl
  have hgiven := h.trans (told.within_act (.handOver 0))
  rwa [htickets, show (told.act (.handOver 0)).uncounted = uncounted from h.uncounted] at hgiven

/-- And then a rejection is counted. -/
theorem Within.countRejection {r told : Run} {tickets : List Ticket} {uncounted : Nat}
    (h : r.Within tickets (uncounted + 1) told) :
    r.Within tickets uncounted (told.act .countRejection) := by
  have hcounted := act_countRejection h.uncounted
  have htickets : (told.act .countRejection).tickets = tickets := by
    rw [hcounted]
    exact h.tickets
  have hone := h.trans (told.within_act .countRejection)
  rwa [htickets, show (told.act .countRejection).uncounted = uncounted by rw [hcounted]] at hone

/-! ## Scenes of a run -/

/-- The scene of an operation shows a moment of a run: it has the breaker, the clock and the instant
of that moment, and what is to be kept holds there. -/
structure Shows (P : Scene → Prop) (r : Run) (s : Scene) : Prop where
  kept : P s
  breaker : r.breaker = s.breaker
  clock : r.clock = s.clock
  instant : r.instant = s.instant

/-- Both read the same clock. -/
theorem Shows.now_eq {P : Scene → Prop} {r : Run} {s : Scene} (h : Shows P r s) :
    r.now = s.now := by
  rw [now, Scene.now, h.clock, h.instant]

section Scenes

variable {c : Callbacks} {P : Scene → Prop} (hP : Scene.Invariant c P) {r next : Run} {s : Scene}
  (h : Shows P r s)

include hP h

/-- A note aside changes nothing. -/
theorem Shows.note {n : Note} (hn : n.isAside = true) : Shows P r (s.note n) :=
  ⟨hP.note s n hn h.kept, h.breaker, h.clock, h.instant⟩

/-- The next moment may be one at which the breaker is as it was, but for what is not seen of it. -/
theorem Shows.leave (next : Run) (hbreaker : r.breaker.Alike next.breaker)
    (hclock : next.clock = r.clock) (hinstant : next.instant = r.instant) :
    Shows P next (s.leave next.breaker false) := by
  rw [h.breaker] at hbreaker
  exact ⟨hP.leave s _ hbreaker h.kept, rfl, hclock.trans h.clock, hinstant.trans h.instant⟩

/-- What an operation announces at once is shown. -/
theorem Shows.settle {m : Moved} (hmoved : s.breaker.Announces s.now m)
    (hbreaker : next.breaker = m.breaker) (hclock : next.clock = r.clock)
    (hinstant : next.instant = r.instant) :
    Shows P next (s.settle c.announcePassively m) where
  kept := hP.settle s m hmoved h.kept
  breaker := by
    rw [Scene.settle, Scene.tell_passively]
    exact hbreaker
  clock := by
    rw [Scene.settle, Scene.tell_passively]
    exact hclock.trans h.clock
  instant := by
    rw [Scene.settle, Scene.tell_passively]
    exact hinstant.trans h.instant

/-- So is a reset. -/
theorem Shows.reset : Shows P (r.act .reset) (s.reset c.announcePassively) where
  kept := hP.reset s h.kept
  breaker := by
    rw [Scene.reset, Scene.tell_passively, ← h.breaker, ← h.now_eq]
    rfl
  clock := by
    rw [Scene.reset, Scene.tell_passively]
    exact h.clock
  instant := by
    rw [Scene.reset, Scene.tell_passively]
    exact h.instant

end Scenes

/-! ## Acts and operations -/

/-- Acts lead from a run to a moment that a scene shows, with the given permits outside and nothing
more left to count than before. -/
def LeadsTo (r : Run) (P : Scene → Prop) (tickets : List Ticket) (s : Scene) : Prop :=
  ∃ next, r.Within tickets r.uncounted next ∧ Shows P next s

/-- A note aside changes nothing. -/
theorem LeadsTo.note {c : Callbacks} {P : Scene → Prop} (hP : Scene.Invariant c P) {r : Run}
    {tickets : List Ticket} {s : Scene} (h : r.LeadsTo P tickets s) {n : Note}
    (hn : n.isAside = true) : r.LeadsTo P tickets (s.note n) := by
  obtain ⟨next, hnext, hshows⟩ := h
  exact ⟨next, hnext, hshows.note hP hn⟩

/-- A permit that was just taken is used up. -/
theorem LeadsTo.spend {P : Scene → Prop} {r : Run} {t : Ticket}
    {s after : Scene} (hgranted : r.LeadsTo P (t :: r.tickets) s)
    (hspent : ∀ mid : Run, Shows P mid s → mid.tickets[0]? = some t →
      mid.LeadsTo P (mid.tickets.eraseIdx 0) after) :
    r.LeadsTo P r.tickets after := by
  obtain ⟨mid, hmid, hreached⟩ := hgranted
  have hheld : mid.tickets[0]? = some t := by
    rw [hmid.tickets]
    rfl
  obtain ⟨next, hnext, hdone⟩ := hspent mid hreached hheld
  rw [hmid.tickets, hmid.uncounted] at hnext
  exact ⟨next, hmid.trans hnext, hdone⟩

/-- Whoever is told of transitions, after the given callbacks were told, does nothing but acts, and
keeps what is kept while callbacks only watch. -/
def Plays (c : Callbacks) (announce : Announcer) : Prop :=
  ∀ P, Scene.Invariant c P → ∀ (r : Run) (s : Scene) (t : Transition),
    Shows P r (c.announcePassively s t) → r.LeadsTo P r.tickets (announce s t)

section Operations

variable {c : Callbacks} {announce : Announcer} {P : Scene → Prop} {r : Run} {s : Scene}
  (h : Plays c announce) (hP : Scene.Invariant c P)

include h hP

/-- What was shown to passive callbacks is announced to those who act. -/
theorem Plays.tell {t : Option Transition}
    (hshows : Shows P r (s.tell c.announcePassively t)) :
    r.LeadsTo P r.tickets (s.tell announce t) := by
  cases t with
  | none => exact ⟨r, .refl r, hshows⟩
  | some t => exact h P hP r s t hshows

/-- An operation that begins with an act and announces what it made of the breaker. -/
theorem Plays.operation {a : Act} {t : Option Transition}
    (huncounted : (r.act a).uncounted = r.uncounted)
    (hshows : Shows P (r.act a) (s.tell c.announcePassively t)) :
    r.LeadsTo P (r.act a).tickets (s.tell announce t) := by
  obtain ⟨next, hnext, hreached⟩ := h.tell hP hshows
  rw [huncounted] at hnext
  exact ⟨next, (r.within_act a).trans hnext, hreached⟩

/-- The transitions due. -/
theorem Plays.check (hshows : Shows P r s) :
    r.LeadsTo P r.tickets (s.check announce).1 := by
  apply h.operation hP (a := .check) rfl
  apply hshows.settle hP (s.breaker.check_leads s.now).announces
  · rw [← hshows.breaker, ← hshows.now_eq]
    rfl
  · rfl
  · rfl

/-- A forced opening. -/
theorem Plays.forceOpen (hshows : Shows P r s) :
    r.LeadsTo P r.tickets (s.forceOpen announce) := by
  have hnoted : Shows P r
      (if s.breaker.isForced then s else s.note (.forcedOpen s.breaker.name)) := by
    split
    · exact hshows
    · exact hshows.note hP rfl
  apply h.operation hP (a := .forceOpen) rfl
  apply hnoted.settle hP
  · rw [← hnoted.breaker, ← hnoted.now_eq, ← hshows.breaker, ← hshows.now_eq]
    exact r.breaker.forceOpen_announces r.now
  · rw [← hshows.breaker, ← hshows.now_eq]
    rfl
  · rfl
  · rfl

/-- A reset. -/
theorem Plays.reset (hshows : Shows P r s) :
    r.LeadsTo P r.tickets (s.reset announce) :=
  h.operation hP (a := .reset) rfl (hshows.reset hP)

/-- An attempt: the permit is handed to its caller, or the rejection is counted, after the
transition was announced. -/
theorem Plays.acquire (hshows : Shows P r s) :
    match (s.acquire announce).2 with
    | .ok generation => ∃ mark, r.LeadsTo P
      (⟨⟨generation, (s.acquire announce).1.instant⟩, mark⟩ :: r.tickets) (s.acquire announce).1
    | .error _ => r.LeadsTo P r.tickets (s.acquire announce).1 := by
  have hattempt : r.act .attempt =
      (r.adopt (s.breaker.attempt s.now).1).answer (s.breaker.attempt s.now).2 := by
    rw [← hshows.breaker, ← hshows.now_eq]
    rfl
  have hpassive : Shows P (r.act .attempt)
      (s.settle c.announcePassively (s.breaker.attempt s.now).1) := by
    apply hshows.settle hP (s.breaker.attempt_announces s.now)
    · rw [hattempt, answer_breaker]
      rfl
    · exact r.act_clock .attempt
    · rw [hattempt]
      cases (s.breaker.attempt s.now).2 <;> rfl
  obtain ⟨told, htold, hreached⟩ := h.tell hP hpassive
  have hbefore := (r.within_act .attempt).trans htold
  unfold Scene.acquire
  cases hverdict : (s.breaker.attempt s.now).2 with
  | granted generation =>
      rw [hattempt, hverdict] at hbefore
      have hgiven := Within.handOver hbefore
      rw [hreached.instant] at hgiven
      simp only [hverdict]
      exact ⟨(r.adopt (s.breaker.attempt s.now).1).history.length + 1, told.act (.handOver 0),
        hgiven, hreached.kept, hreached.breaker, hreached.clock, hreached.instant⟩
  | rejected state retryAfter =>
      rw [hattempt, hverdict] at hbefore
      have hcounted : told.act .countRejection =
          { told with breaker := told.breaker.countRejection, uncounted := r.uncounted } :=
        act_countRejection hbefore.uncounted
      have hbreaker : (told.act .countRejection).breaker = told.breaker.countRejection := by
        rw [hcounted]
      have hafter := hreached.leave hP (told.act .countRejection)
        (hbreaker ▸ told.breaker.countRejection_alike) (told.act_clock _) (by rw [hcounted])
      rw [hbreaker, hreached.breaker] at hafter
      simp only [hverdict]
      exact ⟨_, Within.countRejection hbefore, hafter.note hP rfl⟩

/-- The outcome of a permit that a caller holds. -/
theorem Plays.complete {i : Nat} {t : Ticket}
    (hshows : Shows P r s) (ht : r.tickets[i]? = some t) (how : Completion) :
    r.LeadsTo P (r.tickets.eraseIdx i)
      (s.complete announce t.permit.generation (how = .succeeded) (how = .timedOut)
        (t.permit.elapsed r.instant)) := by
  have hsettle := act_settle ht how
  have hbreaker : (r.act (.settle i how)).breaker =
      (s.breaker.complete s.now t.permit.generation (r.outcome t how)).breaker := by
    rw [hsettle, ← hshows.breaker, ← hshows.now_eq]
    rfl
  have htickets : (r.act (.settle i how)).tickets = r.tickets.eraseIdx i := by
    rw [hsettle]
    rfl
  have huncounted : (r.act (.settle i how)).uncounted = r.uncounted := by
    rw [hsettle]
    rfl
  have hinstant : (r.act (.settle i how)).instant = r.instant := by
    rw [hsettle]
    rfl
  unfold Scene.complete
  split
  · rename_i hstale
    rw [Breaker.complete_stale hstale, ← hshows.breaker] at hbreaker
    have hone := r.within_act (.settle i how)
    rw [htickets, huncounted] at hone
    obtain ⟨hkept, hsame, hclock, _⟩ := hshows.note hP (n := .discarded s.breaker.name) rfl
    exact ⟨_, hone, hkept, hbreaker.trans hsame, (r.act_clock _).trans hclock,
      hinstant.trans hshows.instant⟩
  · have hmoved := s.breaker.complete_announces s.now t.permit.generation (r.outcome t how)
    have hcomplete := h.operation hP huncounted
      (hshows.settle hP hmoved hbreaker (r.act_clock _) hinstant)
    rw [htickets, Run.outcome, hshows.now_eq] at hcomplete
    exact hcomplete

omit h in
/-- A permit that a caller hands back. -/
theorem Shows.release (hshows : Shows P r s) {i : Nat} {t : Ticket}
    (ht : r.tickets[i]? = some t) :
    r.LeadsTo P (r.tickets.eraseIdx i) (s.release t.permit.generation) := by
  have hgiven := act_giveBack ht
  have hbreaker : (r.act (.giveBack i)).breaker = r.breaker.release t.permit.generation := by
    rw [hgiven]
    rfl
  have hone := r.within_act (.giveBack i)
  have hafter := hshows.leave hP (r.act (.giveBack i))
    (hbreaker ▸ r.breaker.release_alike t.permit.generation) (r.act_clock _) (by rw [hgiven]; rfl)
  rw [hbreaker, hshows.breaker] at hafter
  rw [show (r.act (.giveBack i)).tickets = r.tickets.eraseIdx i by rw [hgiven]; rfl,
    show (r.act (.giveBack i)).uncounted = r.uncounted by rw [hgiven]; rfl] at hone
  exact ⟨_, hone, hafter⟩

/-- The error of a call: it is recorded, or the permit is handed back. -/
theorem Plays.fault {i : Nat} {t : Ticket}
    (hshows : Shows P r s) (ht : r.tickets[i]? = some t)
    (classifier : Option Classifier) (fault : Fault) :
    r.LeadsTo P (r.tickets.eraseIdx i)
      (s.fault announce classifier t.permit.generation fault (t.permit.elapsed r.instant)) := by
  have hrecorded := h.complete hP hshows ht .failed
  cases classifier with
  | none => exact hrecorded
  | some classifier =>
      simp only [Scene.fault]
      split
      · exact hrecorded
      · exact (hshows.note hP rfl).release hP ht

/-! ## Hooks -/

/-- The end of a call: with success or with an error. -/
theorem Plays.finish {i : Nat} {t : Ticket}
    (hshows : Shows P r s) (ht : r.tickets[i]? = some t)
    (classifier : Option Classifier) (error : Option Fault) :
    r.LeadsTo P (r.tickets.eraseIdx i)
      (s.finish announce classifier t.permit.generation (t.permit.elapsed r.instant) error) := by
  cases error with
  | none => exact h.complete hP hshows ht .succeeded
  | some fault => exact h.fault hP hshows ht classifier fault

end Operations

mutual

/-- What a hook does is a sequence of acts, and it keeps no permit. -/
theorem Plays.react {c : Callbacks} {announce : Announcer} {P : Scene → Prop}
    (h : Plays c announce) (hP : Scene.Invariant c P) (classifier : Option Classifier) {r : Run}
    {s : Scene} (hshows : Shows P r s) : ∀ reaction : Reaction,
      r.LeadsTo P r.tickets (s.react announce classifier reaction)
  | .wait d =>
      ⟨r.act (.wait d), r.within_act (.wait d), hP.wait s d hshows.kept, hshows.breaker,
        hshows.clock, congrArg (· + d.nanos) hshows.instant⟩
  | .reset => h.reset hP hshows
  | .forceOpen => h.forceOpen hP hshows
  | .check => (h.check hP hshows).note hP rfl
  | .call inside error => by
      have hacquire := h.acquire hP hshows
      simp only [Scene.react]
      rcases hanswer : s.acquire announce with ⟨begun, verdict⟩
      rw [hanswer] at hacquire
      cases verdict with
      | error rejection => exact hacquire.note hP rfl
      | ok generation =>
          obtain ⟨mark, hgranted⟩ := hacquire
          apply LeadsTo.note hP _ rfl
          apply hgranted.spend
          intro mid hreached hheld
          obtain ⟨done, hdone, hended⟩ := h.reactAll hP classifier hreached inside
          rw [← hdone.tickets] at hheld ⊢
          obtain ⟨last, hlast, hshown⟩ := h.finish hP hended hheld classifier error
          rw [hdone.uncounted] at hlast
          rw [Permit.elapsed, hended.instant] at hshown
          exact ⟨last, hdone.trans hlast, hshown⟩
  | .acquire => by
      have hacquire := h.acquire hP hshows
      simp only [Scene.react]
      rcases hanswer : s.acquire announce with ⟨after, verdict⟩
      rw [hanswer] at hacquire
      cases verdict with
      | error rejection => exact hacquire.note hP rfl
      | ok generation =>
          obtain ⟨mark, hgranted⟩ := hacquire
          apply LeadsTo.note hP _ rfl
          apply hgranted.spend
          intro mid hreached hheld
          exact hreached.release hP hheld

/-- So is what it does in several reactions. -/
theorem Plays.reactAll {c : Callbacks} {announce : Announcer} {P : Scene → Prop}
    (h : Plays c announce) (hP : Scene.Invariant c P) (classifier : Option Classifier) {r : Run}
    {s : Scene} (hshows : Shows P r s) : ∀ reactions : List Reaction,
      r.LeadsTo P r.tickets (s.reactAll announce classifier reactions)
  | [] => ⟨r, .refl r, hshows⟩
  | reaction :: rest => by
      obtain ⟨mid, hmid, hreached⟩ := h.react hP classifier hshows reaction
      obtain ⟨next, hnext, hrest⟩ := h.reactAll hP classifier hreached rest
      rw [hmid.tickets, hmid.uncounted] at hnext
      simp only [Scene.reactAll]
      exact ⟨next, hmid.trans hnext, hrest⟩

end

/-- What callbacks do is a sequence of acts, however deep hooks act. -/
theorem plays_announce (c : Callbacks) (classifier : Option Classifier) (depth : Nat) :
    Plays c (c.announce classifier depth) := by
  induction depth with
  | zero =>
      intro P hP r s t hshows
      exact ⟨r, .refl r, hshows⟩
  | succ depth ih =>
      intro P hP r s t hshows
      exact ih.reactAll hP classifier hshows _

end Run

end FailFast
