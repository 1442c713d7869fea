import Mathlib.Data.List.Induction
import FailFast.Proofs.Run.Callbacks

/-!
# Chronicles

A chronicle of a breaker is all that was noted of it since it was made, and how it was left each
time that something let go of it.  Its changes of state can be read off the latter alone: they are
where the breaker was left in another state than before.  A chronicle is true if what was announced
is just that, so that a change that is not announced, or announced twice, or out of its place, makes
it false.

Main results:

- Theorem `Glimpse.changes_snoc`: the next change is where the breaker is left in another state.
- Theorem `Chronicle.Reaches.settle` and theorem `Chronicle.Reaches.reset`: what is announced at
  once is announced truly.
- Theorem `Chronicle.reaches_invariant`: so a true chronicle is kept by every operation.
- Theorem `Chronicle.IsTrue.readings`: events come in the order of their readings.
- Theorem `Chronicle.IsTrue.since_eq`: the time in the state counts from the latest of the making,
  the last change and the last reset.
-/

namespace FailFast

/-! ## Paths -/

/-- Transitions, oldest first, of which each starts in the state where the one before it ended. -/
def Transition.Path : State → List Transition → State → Prop
  | a, [], b => a = b
  | a, t :: rest, b => t.source = a ∧ t.IsProper ∧ Path t.target rest b

/-- A path goes on from the state to which it leads. -/
theorem Transition.Path.snoc {a b : State} {ts : List Transition} {t : Transition}
    (h : Path a ts b) (hsource : t.source = b) (hproper : t.IsProper) :
    Path a (ts ++ [t]) t.target := by
  induction ts generalizing a with
  | nil => exact ⟨hsource.trans h.symm, hproper, rfl⟩
  | cons u rest ih => exact ⟨h.1, h.2.1, ih h.2.2⟩

/-- A path goes on along another one. -/
theorem Transition.Path.append {a b c : State} {ts us : List Transition} (h : Path a ts b)
    (hnext : Path b us c) : Path a (ts ++ us) c := by
  induction ts generalizing a with
  | nil =>
      cases h
      exact hnext
  | cons t rest ih => exact ⟨h.1, h.2.1, ih h.2.2⟩

/-- A path leads to the target of its last transition, or nowhere. -/
theorem Transition.Path.last {a b : State} {ts : List Transition} (h : Path a ts b) :
    b = (ts.map Transition.target).getLastD a := by
  induction ts generalizing a with
  | nil => exact h.symm
  | cons t rest ih =>
      rw [List.map_cons, List.getLastD_cons]
      exact ih h.2.2

/-! ## What can be read off glimpses -/

namespace Glimpse

/-- The state in which a breaker was left last. -/
def last (before : State) (trail : List Glimpse) : State := (trail.map state).getLastD before

/-- The changes of state of a breaker that was in a state before: each time that it was left in
another state than the time before. -/
def changes (name : String) (clock : Clock) : State → List Glimpse → List Transition
  | _, [] => []
  | before, g :: rest =>
    (if g.state = before then [] else [⟨name, before, g.state, clock.reading g.instant⟩]) ++
      changes name clock g.state rest

/-- The instant of the last change of state or reset, if there was one since the given instant. -/
def since (made : Instant) : State → List Glimpse → Instant
  | _, [] => made
  | before, g :: rest =>
    since (if g.isReset ∨ g.state ≠ before then g.instant else made) g.state rest

@[simp]
theorem last_snoc (before : State) (trail : List Glimpse) (g : Glimpse) :
    last before (trail ++ [g]) = g.state := by
  simp [last]

theorem last_cons (before : State) (g : Glimpse) (rest : List Glimpse) :
    last before (g :: rest) = last g.state rest := by
  rw [last, last, List.map_cons, List.getLastD_cons]

/-- The next change is where the breaker is left in another state. -/
theorem changes_snoc (name : String) (clock : Clock) (before : State) (trail : List Glimpse)
    (g : Glimpse) : changes name clock before (trail ++ [g]) =
      changes name clock before trail ++
        if g.state = last before trail then []
        else [⟨name, last before trail, g.state, clock.reading g.instant⟩] := by
  induction trail generalizing before with
  | nil => simp [changes, last]
  | cons first rest ih =>
      rw [List.cons_append, changes, changes, ih, last_cons, List.append_assoc]

/-- A reset or the next change is where the count begins anew. -/
theorem since_snoc (made : Instant) (before : State) (trail : List Glimpse) (g : Glimpse) :
    since made before (trail ++ [g]) =
      if g.isReset ∨ g.state ≠ last before trail then g.instant
      else since made before trail := by
  induction trail generalizing made before with
  | nil => rfl
  | cons first rest ih => rw [List.cons_append, since, since, ih, last_cons]

/-- Every change has the reading of a time at which the breaker was left, in their order. -/
theorem readings_changes (name : String) (clock : Clock) (before : State) (trail : List Glimpse) :
    ((changes name clock before trail).map Transition.reading).Sublist
      (trail.map fun g => clock.reading g.instant) := by
  induction trail generalizing before with
  | nil => exact .slnil
  | cons g rest ih =>
      rw [changes]
      split
      · exact (ih g.state).cons _
      · exact (ih g.state).cons_cons _

/-- The count begins at one of the instants. -/
theorem since_mem (made : Instant) (before : State) (trail : List Glimpse) :
    since made before trail ∈ made :: trail.map instant := by
  induction trail generalizing made before with
  | nil => exact List.mem_singleton.mpr rfl
  | cons g rest ih =>
      rw [since]
      rcases List.mem_cons.mp (ih (if g.isReset ∨ g.state ≠ before then g.instant else made)
        g.state) with hfirst | hrest
      · rw [hfirst]
        split <;> simp
      · exact List.mem_cons_of_mem _ (List.mem_cons_of_mem _ hrest)

/-- The instant of the last reset, if there was one since the given instant. -/
def cleared (made : Instant) (trail : List Glimpse) : Instant :=
  ((trail.filter isReset).map instant).getLastD made

/-- The reading at the last of several transitions. -/
def lastReading (ts : List Transition) : Nat := (ts.map Transition.reading).getLastD 0

theorem cleared_snoc (made : Instant) (trail : List Glimpse) (g : Glimpse) :
    cleared made (trail ++ [g]) = if g.isReset then g.instant else cleared made trail := by
  rw [cleared, cleared, List.filter_append, List.map_append]
  cases h : g.isReset with
  | true => simp [h]
  | false => simp [h]

@[simp]
theorem lastReading_snoc (ts : List Transition) (t : Transition) :
    lastReading (ts ++ [t]) = t.reading := by
  simp [lastReading]

/-- While the clock does not wrap, the count begins at the last reset or the last change, whichever
was later, or else at the given instant. -/
theorem reading_since (name : String) {clock : Clock} {made : Instant} {trail : List Glimpse}
    (hordered : (made :: trail.map instant).Pairwise (· ≤ ·))
    (hclock : ∀ i ∈ made :: trail.map instant, (i - clock.anchor) / 1000000 < wordCount) :
    clock.reading (since made .closed trail) =
      max (clock.reading (cleared made trail))
        (lastReading (changes name clock .closed trail)) := by
  -- The count begins anew at the end of the trail, so the induction is on the last glimpse.
  induction trail using List.reverseRecOn with
  | nil => exact (Nat.max_zero _).symm
  | append_singleton trail g ih =>
      have hlist : made :: (trail ++ [g]).map instant =
          (made :: trail.map instant) ++ [g.instant] := by
        simp
      rw [hlist] at hordered hclock
      obtain ⟨hbefore, _, hlast⟩ := List.pairwise_append.mp hordered
      have hsince : since made .closed trail ≤ g.instant :=
        hlast _ (since_mem made .closed trail) _ (List.mem_singleton.mpr rfl)
      have hbound : clock.reading (since made .closed trail) ≤ clock.reading g.instant :=
        clock.reading_mono hsince (hclock _ (by simp))
      have hagain := ih hbefore fun i hi => hclock i (List.mem_append_left _ hi)
      rw [hagain] at hbound
      rw [since_snoc, changes_snoc, cleared_snoc]
      by_cases hstate : g.state = last .closed trail
      · rw [if_pos hstate, List.append_nil]
        cases hreset : g.isReset with
        | true =>
            rw [if_pos (Or.inl rfl), if_pos rfl]
            exact (Nat.max_eq_left (Nat.le_trans (Nat.le_max_right _ _) hbound)).symm
        | false =>
            rw [if_neg (by simp [hstate]), if_neg Bool.false_ne_true]
            exact hagain
      · rw [if_neg hstate, if_pos (Or.inr hstate), lastReading_snoc]
        cases hreset : g.isReset with
        | true => exact (Nat.max_self _).symm
        | false => exact (Nat.max_eq_right (Nat.le_trans (Nat.le_max_left _ _) hbound)).symm

end Glimpse

/-! ## Chronicles -/

/-- All that was noted of a breaker since it was made, and how it was left each time. -/
structure Chronicle where
  made : Instant
  journal : Journal
  trail : List Glimpse
deriving Inhabited

namespace Chronicle

/-- The chronicle up to a scene of an operation that began after it. -/
def upTo (ch : Chronicle) (s : Scene) : Chronicle :=
  { ch with journal := ch.journal ++ s.journal, trail := ch.trail ++ s.trail }

/-- The chronicle of a breaker that was just made. -/
def start (made : Instant) : Chronicle := ⟨made, [], []⟩

/-- The transitions that were announced. -/
def events (ch : Chronicle) : List Transition := ch.journal.transitions

/-- The instants of a chronicle. -/
def instants (ch : Chronicle) : List Instant := ch.made :: ch.trail.map Glimpse.instant

/-- A chronicle is true of a breaker at an instant: what is announced are its changes of state,
which so many listeners are told of. -/
structure IsTrue (ch : Chronicle) (listeners : Nat) (clock : Clock) (b : Breaker)
    (instant : Instant) : Prop where
  told : ch.journal.Told listeners
  events : ch.events = Glimpse.changes b.name clock .closed ch.trail
  path : Transition.Path .closed ch.events b.state
  left : b.state = Glimpse.last .closed ch.trail
  since : b.changedAt = clock.reading (Glimpse.since ch.made .closed ch.trail)
  ordered : (ch.instants ++ [instant]).Pairwise (· ≤ ·)

/-- The chronicle up to a scene is true. -/
abbrev Reaches (ch : Chronicle) (listeners : Nat) (s : Scene) : Prop :=
  (ch.upTo s).IsTrue listeners s.clock s.breaker s.instant

/-- Nothing was announced of a new breaker. -/
theorem isTrue_start (name : String) (config : Config) (draws : Draws) (listeners : Nat)
    (made : Instant) : (start made).IsTrue listeners ⟨made⟩
      (.fresh name config draws (Clock.reading ⟨made⟩ made)) made where
  told := Journal.told_nil listeners
  events := rfl
  path := rfl
  left := rfl
  since := rfl
  ordered := by simp [instants, start]

namespace IsTrue

variable {ch : Chronicle} {listeners : Nat} {clock : Clock} {b : Breaker} {instant : Instant}
  (h : ch.IsTrue listeners clock b instant)

include h

/-- It goes on to be true while nothing happens. -/
theorem later {later : Instant} (hle : instant ≤ later) : ch.IsTrue listeners clock b later where
  told := h.told
  events := h.events
  path := h.path
  left := h.left
  since := h.since
  ordered := by
    obtain ⟨hbefore, hnow, hlast⟩ := List.pairwise_append.mp h.ordered
    refine List.pairwise_append.mpr ⟨hbefore, List.pairwise_singleton _ _, ?_⟩
    intro i hi j hj
    rw [List.mem_singleton.mp hj]
    exact Nat.le_trans (hlast i hi instant (List.mem_singleton.mpr rfl)) hle

/-- The instants go on in their order when the breaker is left once more. -/
theorem ordered_snoc (state : State) (isReset : Bool) :
    (({ ch with trail := ch.trail ++ [⟨state, instant, isReset⟩] } : Chronicle).instants ++
      [instant]).Pairwise (· ≤ ·) := by
  have hall : ({ ch with trail := ch.trail ++ [⟨state, instant, isReset⟩] } : Chronicle).instants =
      ch.instants ++ [instant] := by
    simp [instants]
  rw [hall]
  refine List.pairwise_append.mpr ⟨h.ordered, List.pairwise_singleton _ _, ?_⟩
  intro i hi j hj
  rw [List.mem_singleton.mp hj]
  rcases List.mem_append.mp hi with hbefore | hnow
  · exact (List.pairwise_append.mp h.ordered).2.2 i hbefore instant (List.mem_singleton.mpr rfl)
  · exact Nat.le_of_eq (List.mem_singleton.mp hnow)

/-- A note that announces no transition and tells no one of any. -/
theorem note {n : Note} (htold : Journal.Told listeners [n]) (hnone : n.transition? = none) :
    ({ ch with journal := ch.journal ++ [n] } : Chronicle).IsTrue listeners clock b instant := by
  have hsame : ({ ch with journal := ch.journal ++ [n] } : Chronicle).events = ch.events := by
    rw [Chronicle.events, Journal.transitions_append]
    simp [Journal.transitions, hnone, Chronicle.events]
  exact
    { told := h.told.append htold
      events := hsame.trans h.events
      path := hsame ▸ h.path
      left := h.left
      since := h.since
      ordered := h.ordered }

/-- The breaker is left in the state in which it was; only a reset begins the time in it anew. -/
theorem stay (next : Breaker) (isReset : Bool) (hname : next.name = b.name)
    (hstate : next.state = b.state)
    (hchanged : next.changedAt = if isReset then clock.reading instant else b.changedAt) :
    ({ ch with trail := ch.trail ++ [⟨next.state, instant, isReset⟩] } : Chronicle).IsTrue listeners
      clock next instant where
  told := h.told
  events := by
    rw [Glimpse.changes_snoc, ← h.left, if_pos hstate, List.append_nil, hname]
    exact h.events
  path := by
    rw [hstate]
    exact h.path
  left := (Glimpse.last_snoc .closed ch.trail ⟨next.state, instant, isReset⟩).symm
  since := by
    rw [Glimpse.since_snoc, hchanged, ← h.left, hstate]
    cases isReset with
    | true => rfl
    | false => simpa using h.since
  ordered := h.ordered_snoc next.state isReset

/-- The breaker is left in another state, and everyone is told of it. -/
theorem change (next : Breaker) (isReset : Bool) {c : Callbacks}
    (hlisteners : c.listeners = listeners) {t : Transition} (hproper : t.IsProper)
    (hsource : t.source = b.state) (htarget : t.target = next.state)
    (hreading : t.reading = clock.reading instant)
    (hchanged : next.changedAt = clock.reading instant) (hname : next.name = b.name)
    (hcircuit : t.circuit = b.name) :
    ({ ch with
        journal := ch.journal ++ .moved t :: c.told t next.state
        trail := ch.trail ++ [⟨next.state, instant, isReset⟩] } : Chronicle).IsTrue listeners
      clock next instant := by
  have hmoved : next.state ≠ b.state := by
    rw [← htarget, ← hsource]
    exact hproper.1.symm
  have htransition : t = ⟨next.name, b.state, next.state, clock.reading instant⟩ := by
    rw [hname, ← hcircuit, ← hsource, ← htarget, ← hreading]
  have hevents : Journal.transitions (ch.journal ++ .moved t :: c.told t next.state) =
      ch.events ++ [t] := by
    rw [Journal.transitions_append]
    exact congrArg (ch.events ++ t :: ·) (Journal.transitions_told c t _)
  have htold := Journal.told_announcement c t
  rw [htarget, hlisteners] at htold
  refine
    { told := h.told.append htold
      events := ?_
      path := ?_
      left := (Glimpse.last_snoc .closed ch.trail ⟨next.state, instant, isReset⟩).symm
      since := ?_
      ordered := h.ordered_snoc next.state isReset }
  · rw [Glimpse.changes_snoc, ← h.left, if_neg hmoved, hname, ← h.events, ← hname, ← htransition]
    exact hevents
  · show Transition.Path .closed
      (Journal.transitions (ch.journal ++ .moved t :: c.told t next.state)) next.state
    rw [hevents, ← htarget]
    exact h.path.snoc hsource hproper
  · rw [Glimpse.since_snoc, ← h.left, if_pos (Or.inr hmoved)]
    exact hchanged

/-- While the clock does not wrap it had not wrapped at any time before. -/
theorem unwrapped (hclock : (instant - clock.anchor) / 1000000 < wordCount) :
    ∀ i ∈ ch.instants, (i - clock.anchor) / 1000000 < wordCount := by
  intro i hi
  have hle : i ≤ instant :=
    (List.pairwise_append.mp h.ordered).2.2 i hi instant (List.mem_singleton.mpr rfl)
  exact Nat.lt_of_le_of_lt (Nat.div_le_div_right (Nat.sub_le_sub_right hle _)) hclock

/-- Until the clock wraps the readings of events never go back. -/
theorem readings (hclock : (instant - clock.anchor) / 1000000 < wordCount) :
    ch.events.Pairwise fun t later => t.reading ≤ later.reading := by
  have hinstants := (List.pairwise_cons.mp (List.pairwise_append.mp h.ordered).1).2
  have hbefore := h.unwrapped hclock
  have hreadings : (ch.trail.map fun g => clock.reading g.instant).Pairwise (· ≤ ·) := by
    rw [List.pairwise_map] at hinstants ⊢
    apply hinstants.imp_of_mem
    intro g later _ hlater hle
    exact clock.reading_mono hle
      (hbefore _ (List.mem_cons_of_mem _ (List.mem_map_of_mem hlater)))
  have hevents := hreadings.sublist (Glimpse.readings_changes b.name clock .closed ch.trail)
  rw [← h.events, List.pairwise_map] at hevents
  exact hevents

/-- Until then the breaker is in its state since it was made, reset or last changed its state,
whichever was the latest. -/
theorem since_eq (hclock : (instant - clock.anchor) / 1000000 < wordCount) :
    b.changedAt = max (clock.reading (Glimpse.cleared ch.made ch.trail))
      (Glimpse.lastReading ch.events) := by
  rw [h.since, h.events]
  exact Glimpse.reading_since b.name (List.pairwise_append.mp h.ordered).1 (h.unwrapped hclock)

end IsTrue

/-! ## Scenes -/

namespace Reaches

variable {ch : Chronicle} {listeners : Nat} {s : Scene} (h : ch.Reaches listeners s)

include h

/-- Time passes. -/
theorem wait (d : Duration) : ch.Reaches listeners (s.wait d) :=
  h.later (Nat.le_add_right _ _)

/-- A note aside changes nothing. -/
theorem note {n : Note} (hn : n.isAside = true) : ch.Reaches listeners (s.note n) := by
  have hnoted := IsTrue.note h (Journal.told_aside hn listeners) (Note.transition?_of_isAside hn)
  simpa [Reaches, upTo, Scene.note, List.append_assoc] using hnoted

/-- The breaker is left as it was, but for what is not seen of it. -/
theorem leave {next : Breaker} (hnext : s.breaker.Alike next) :
    ch.Reaches listeners (s.leave next false) := by
  have hstayed := h.stay next false hnext.name hnext.state hnext.changedAt
  simpa [Reaches, upTo, Scene.leave, List.append_assoc] using hstayed

/-- What an operation announces at once is announced truly. -/
theorem settle {c : Callbacks} (hlisteners : c.listeners = listeners) {m : Moved}
    (hmoved : s.breaker.Announces s.now m) :
    ch.Reaches listeners (s.settle c.announcePassively m) := by
  unfold Scene.settle
  cases hmoved with
  | nothing hnone hstate hchanged hname =>
      have hstayed := h.stay m.breaker false hname hstate hchanged
      rw [hnone]
      simpa [Reaches, upTo, Scene.leave, Scene.tell, List.append_assoc] using hstayed
  | change t hsome hproper hsource htarget hreading hchanged hname hcircuit =>
      have hannounced := h.change m.breaker false hlisteners hproper hsource htarget hreading
        hchanged hname hcircuit
      rw [hsome]
      simpa [Reaches, upTo, Scene.leave, Scene.tell, Callbacks.announcePassively,
        List.append_assoc] using hannounced

/-- A reset is noted before it is announced, and the breaker is in its state since then even if that
is the state in which it was. -/
theorem reset {c : Callbacks} (hlisteners : c.listeners = listeners) :
    ch.Reaches listeners (s.reset c.announcePassively) := by
  have hnoted := IsTrue.note h (Journal.told_reset s.breaker.name listeners) rfl
  unfold Scene.reset
  by_cases hclosed : s.breaker.state = .closed
  · have hnone : (s.breaker.reset s.now).transition = none := if_pos hclosed
    have hstayed := hnoted.stay (s.breaker.reset s.now).breaker true rfl hclosed.symm rfl
    rw [hnone]
    simpa [Reaches, upTo, Scene.leave, Scene.note, Scene.tell, List.append_assoc] using hstayed
  · have hsome : (s.breaker.reset s.now).transition =
        some ⟨s.breaker.name, s.breaker.state, .closed, s.now⟩ := if_neg hclosed
    have hannounced := hnoted.change (s.breaker.reset s.now).breaker true
      (t := ⟨s.breaker.name, s.breaker.state, .closed, s.now⟩) hlisteners
      ⟨hclosed, fun hwrong => hclosed hwrong.1⟩ rfl rfl rfl rfl rfl rfl
    rw [hsome]
    simpa [Reaches, upTo, Scene.leave, Scene.note, Scene.tell, Callbacks.announcePassively,
      List.append_assoc] using hannounced

end Reaches

/-- So whatever is done, a true chronicle goes on to be true while callbacks only watch. -/
theorem reaches_invariant (ch : Chronicle) (c : Callbacks) :
    Scene.Invariant c (ch.Reaches c.listeners) where
  wait _ d h := h.wait d
  note _ _ hn h := h.note hn
  leave _ _ hb h := h.leave hb
  settle _ _ hm h := h.settle rfl hm
  reset _ h := h.reset rfl

end Chronicle

end FailFast
