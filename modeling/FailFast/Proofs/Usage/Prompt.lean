import FailFast.Proofs.Usage.Passive

/-!
# Callbacks that take no time

Hooks may act and yet take no time: none of the things that they do lets any pass, nor does any
operation of a call that they make.  Then an operation ends at the instant at which it began, to
whatever depth hooks act in its course.

Main results:

- Theorem `Scene.react_instant`: what takes no time, by induction on what a hook does.
- Theorem `Callbacks.IsPrompt.announce`: an announcement to callbacks that take no time takes none,
  by induction on the depth to which hooks act.
- Theorem `Circuit.check_instant`: so a check takes none.
-/

namespace FailFast

/-! ## What takes no time -/

mutual

/-- Whether something that a hook does takes no time. -/
def Reaction.isPrompt : Reaction → Bool
  | .wait _ => false
  | .call inside _ => arePrompt inside
  | _ => true

/-- Whether none of several things takes time. -/
def Reaction.arePrompt : List Reaction → Bool
  | [] => true
  | reaction :: rest => reaction.isPrompt && arePrompt rest

end

/-- Announcing takes no time. -/
def Announcer.IsPrompt (announce : Announcer) : Prop := ∀ s t, (announce s t).instant = s.instant

/-- Callbacks that take no time, though they may act: no level of hooks acts, or no hook lets time
pass. -/
def Callbacks.IsPrompt (c : Callbacks) : Prop :=
  c.depth = 0 ∨
    ∀ target hook, c.hook? target = some hook → ∀ j, Reaction.arePrompt (hook.reactions j) = true

/-! ## Operations -/

namespace Scene

section Operations

variable {announce : Announcer} (h : announce.IsPrompt)

include h

/-- Telling takes no time then, and so it is with every operation. -/
theorem tell_instant (s : Scene) (t : Option Transition) :
    (s.tell announce t).instant = s.instant := by
  cases t with
  | none => rfl
  | some t => exact h s t

theorem settle_instant (s : Scene) (m : Moved) : (s.settle announce m).instant = s.instant :=
  tell_instant h _ _

theorem acquire_instant (s : Scene) : (s.acquire announce).1.instant = s.instant := by
  unfold acquire
  rcases s.breaker.attempt s.now with ⟨m, verdict⟩
  cases verdict <;> exact settle_instant h s m

theorem complete_instant (s : Scene) (generation : Nat) (succeeded timedOut : Bool)
    (elapsed : Duration) :
    (s.complete announce generation succeeded timedOut elapsed).instant = s.instant := by
  unfold complete
  split
  · rfl
  · exact settle_instant h _ _

theorem fault_instant (s : Scene) (classifier : Option Classifier) (generation : Nat)
    (fault : Fault) (elapsed : Duration) :
    (s.fault announce classifier generation fault elapsed).instant = s.instant := by
  cases classifier with
  | none => exact complete_instant h _ _ _ _ _
  | some classifier =>
      simp only [Scene.fault]
      split
      · exact complete_instant h _ _ _ _ _
      · rfl

theorem forceOpen_instant (s : Scene) : (s.forceOpen announce).instant = s.instant := by
  rw [forceOpen, settle_instant h]
  split <;> rfl

theorem finish_instant (s : Scene) (classifier : Option Classifier) (generation : Nat)
    (elapsed : Duration) (error : Option Fault) :
    (s.finish announce classifier generation elapsed error).instant = s.instant := by
  cases error with
  | none => exact complete_instant h _ _ _ _ _
  | some fault => exact fault_instant h _ _ _ _ _

end Operations

/-! ## Reactions -/

mutual

/-- What takes no time leaves the scene at the instant to which it had come. -/
theorem react_instant {announce : Announcer} (h : announce.IsPrompt)
    (classifier : Option Classifier) (s : Scene) :
    ∀ {reaction : Reaction}, reaction.isPrompt = true →
      (s.react announce classifier reaction).instant = s.instant
  | .wait _, hprompt => Bool.noConfusion hprompt
  | .reset, _ => tell_instant h _ _
  | .forceOpen, _ => forceOpen_instant h s
  | .check, _ => settle_instant h _ _
  | .call inside error, hprompt => by
      have hbegun := acquire_instant h s
      unfold react
      generalize s.acquire announce = answer at hbegun
      obtain ⟨begun, verdict⟩ := answer
      cases verdict with
      | error _ => exact hbegun
      | ok generation =>
          have hdone := reactAll_instant h classifier begun hprompt
          exact (finish_instant h _ _ _ _ _).trans (hdone.trans hbegun)
  | .acquire, _ => by
      have hbegun := acquire_instant h s
      unfold react
      generalize s.acquire announce = answer at hbegun
      obtain ⟨begun, verdict⟩ := answer
      cases verdict <;> exact hbegun

/-- So do several such things. -/
theorem reactAll_instant {announce : Announcer} (h : announce.IsPrompt)
    (classifier : Option Classifier) (s : Scene) :
    ∀ {reactions : List Reaction}, Reaction.arePrompt reactions = true →
      (s.reactAll announce classifier reactions).instant = s.instant
  | [], _ => rfl
  | reaction :: rest, hprompt => by
      obtain ⟨hfirst, hrest⟩ := Bool.and_eq_true_iff.mp hprompt
      rw [reactAll, reactAll_instant h classifier _ hrest, react_instant h classifier s hfirst]

end

end Scene

/-! ## Callbacks -/

namespace Callbacks

/-- Callbacks that only watch take no time. -/
theorem IsPassive.isPrompt {c : Callbacks} (hpassive : c.IsPassive) : c.IsPrompt := by
  rcases hpassive with hdepth | hidle
  · exact Or.inl hdepth
  · refine Or.inr fun target hook hhook j => ?_
    rw [hidle target hook hhook j]
    rfl

/-- An announcement to callbacks that take no time takes none. -/
theorem IsPrompt.announce {c : Callbacks} (hprompt : c.IsPrompt)
    (classifier : Option Classifier) : (c.announce classifier c.depth).IsPrompt := by
  rcases hprompt with hdepth | hhooks
  · rw [hdepth]
    exact fun s t => rfl
  · generalize c.depth = depth
    induction depth with
    | zero => exact fun s t => rfl
    | succ depth ih =>
        intro s t
        have hreactions : Reaction.arePrompt (((c.hook? t.target).map
            (·.reactions (c.announcePassively s t).journal)).getD []) = true := by
          cases hhook : c.hook? t.target with
          | none => rfl
          | some hook => exact hhooks t.target hook hhook _
        exact Scene.reactAll_instant ih classifier _ hreactions

end Callbacks

/-- A check of a circuit whose callbacks take no time takes none. -/
theorem Circuit.check_instant {c : Circuit} (hprompt : c.callbacks.IsPrompt)
    (instant : Instant) : (c.check instant).2.1 = instant :=
  Scene.settle_instant (hprompt.announce c.classifier) _ _

end FailFast
