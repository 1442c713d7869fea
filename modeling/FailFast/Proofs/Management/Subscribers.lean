import FailFast.Proofs.Management.Crowd

/-!
# Subscribers

Callers of a registry tell its channel of every transition that they make, of whatever circuit,
registered or not.  A subscriber that never has more transitions waiting than the channel keeps
receives them all: what it received and what is still waiting for it are together what the channel
was told since it subscribed.  So it is told of each transition once, and of those of one caller in
their order.  Transitions of different callers it gets in the order in which they are announced,
which need not be the order in which they were made, nor that in which a listener is told.

Main results:

- Theorem `Channel.receive_kept` and theorem `Channel.drain_kept`: a subscriber that keeps up
  receives what is waiting for it.
- Theorem `Subscription.subscriber_is_told_everything`: a subscriber that keeps up is told of every
  change of state once, and in their order if each is announced before the next one is made.
- Theorem `Subscription.told_out_of_order`: two callers that announce their transitions the other
  way round.
-/

namespace FailFast

/-! ## Keeping up with a channel -/

/-- The transition that was received. -/
def Receipt.transition? : Receipt → Option Transition
  | transition t => some t
  | _ => none

namespace Channel

variable {ch : Channel} {position : Nat}

/-- The transitions that wait for a subscriber at a position. -/
def waiting (ch : Channel) (position : Nat) : List Transition := ch.published.drop position

/-- A subscriber for whom no more waits than the channel keeps missed nothing. -/
theorem oldest_le (hkept : (ch.waiting position).length ≤ ch.capacity) : ch.oldest ≤ position := by
  rw [waiting, List.length_drop] at hkept
  rw [oldest]
  omega

/-- It receives the first transition that waits for it, if there is one, and the others go on
waiting. -/
theorem receive_kept (hkept : (ch.waiting position).length ≤ ch.capacity) (ended : Bool) :
    (ch.receive ended position).1.transition?.toList ++
        ch.waiting (ch.receive ended position).2 = ch.waiting position ∧
      ∀ missed, (ch.receive ended position).1 ≠ .lagged missed := by
  have hmissed : ¬ position < ch.oldest := Nat.not_lt.mpr (oldest_le hkept)
  simp only [receive, if_neg hmissed]
  cases ht : ch.published[position]? with
  | none => cases ended <;> exact ⟨rfl, fun _ => Receipt.noConfusion⟩
  | some t =>
      obtain ⟨hlt, rfl⟩ := List.getElem?_eq_some_iff.mp ht
      exact ⟨(List.drop_eq_getElem_cons hlt).symm, fun _ => Receipt.noConfusion⟩

/-- It receives all that waits for it in order, and then finds nothing. -/
theorem drain_kept (hkept : (ch.waiting position).length ≤ ch.capacity) (ended : Bool) {fuel : Nat}
    (hfuel : (ch.waiting position).length < fuel) :
    (ch.drain ended fuel position).1 =
      (ch.waiting position).map .transition ++ [if ended then .closed else .empty] := by
  induction fuel generalizing position with
  | zero => cases hfuel
  | succ fuel ih =>
      have hmissed : ¬ position < ch.oldest := Nat.not_lt.mpr (oldest_le hkept)
      cases ht : ch.published[position]? with
      | none =>
          have hnothing : ch.waiting position = [] :=
            List.drop_eq_nil_iff.mpr (List.getElem?_eq_none_iff.mp ht)
          simp only [drain, receive, if_neg hmissed, ht, hnothing]
          cases ended <;> rfl
      | some t =>
          obtain ⟨hlt, rfl⟩ := List.getElem?_eq_some_iff.mp ht
          have hwaiting : ch.waiting position =
              ch.published[position] :: ch.waiting (position + 1) :=
            List.drop_eq_getElem_cons hlt
          rw [hwaiting, List.length_cons] at hkept hfuel
          have hrest := ih (Nat.le_of_succ_le hkept) (Nat.lt_of_succ_lt_succ hfuel)
          simp only [drain, receive, if_neg hmissed, ht, hwaiting, hrest, List.map_cons,
            List.cons_append]

end Channel

/-! ## Subscriptions -/

/-- A subscriber of a registry with callers, with the position up to which it received and what it
received so far. -/
structure Subscription where
  crowd : Crowd
  position : Nat
  receipts : List Receipt

/-- What goes on around a subscriber. -/
inductive Moment where
  /-- Something goes on in the crowd. -/
  | move (a : Crowd.Move)
  /-- The subscriber looks what there is to receive; `ended` says that no one can publish any
  more. -/
  | receive (ended : Bool)

/-- What goes on in the crowd at a moment. -/
def Moment.move? : Moment → Option Crowd.Move
  | move a => some a
  | receive _ => none

/-- Subscribe to the transitions from now on. -/
def Crowd.subscribed (s : Crowd) : Subscription where
  crowd := s
  position := s.management.fleet.channel.subscribe
  receipts := []

namespace Subscription

/-- The channel. -/
def channel (t : Subscription) : Channel := t.crowd.management.fleet.channel

/-- A moment passes. -/
def moment (t : Subscription) : Moment → Subscription
  | .move a => { t with crowd := t.crowd.move a }
  | .receive ended =>
    let (receipt, position) := t.channel.receive ended t.position
    { t with position, receipts := t.receipts ++ [receipt] }

/-- Several moments pass. -/
def moments (t : Subscription) (xs : List Moment) : Subscription := xs.foldl moment t

/-- The transitions received. -/
def received (t : Subscription) : List Transition := t.receipts.filterMap Receipt.transition?

/-- The transitions that wait to be received. -/
def waiting (t : Subscription) : List Transition := t.channel.waiting t.position

/-- No more transitions wait than the channel keeps. -/
def KeepsUp (t : Subscription) : Prop := t.waiting.length ≤ t.channel.capacity

/-- So it is at all times while moments pass. -/
def AlwaysKeepsUp (t : Subscription) : List Moment → Prop
  | [] => t.KeepsUp
  | x :: rest => t.KeepsUp ∧ (t.moment x).AlwaysKeepsUp rest

instance (t : Subscription) : Decidable t.KeepsUp := inferInstanceAs (Decidable (_ ≤ _))

instance decidableAlwaysKeepsUp : (t : Subscription) → (xs : List Moment) →
    Decidable (t.AlwaysKeepsUp xs)
  | t, [] => inferInstanceAs (Decidable t.KeepsUp)
  | t, x :: rest =>
    have := decidableAlwaysKeepsUp (t.moment x) rest
    inferInstanceAs (Decidable (_ ∧ _))

/-- What a subscriber knows that subscribed to a registry in use, with which something went on then.

What it received and what waits for it are what the channel was told since it subscribed; it was
never told that it missed some, and it receives those that wait as soon as it looks for them.  Of
the changes of state that a caller makes it is told each once and in the order in which this caller
makes them, after those that the caller had still to announce when it subscribed, and so is every
listener.  If no announcement is under way, then or now, these are all changes of state, and they
lead for every circuit from its state then to its state now.  If there is but one caller, or if each
transition is announced before the next one is made, then the subscriber and all listeners are told
of them in their order. -/
structure Informed (t : Subscription) (s : Crowd) (as : List Crowd.Move) : Prop where
  crowd : t.crowd = s.moves as
  received : t.received ++ t.waiting = (s.toldIn .channel as).map Telling.transition
  unmissed : ∀ missed, .lagged missed ∉ t.receipts
  drain : ∀ ended, (t.channel.drain ended (t.channel.published.length + 2) t.position).1 =
    t.waiting.map .transition ++ [if ended then .closed else .empty]
  heard : ∀ j < s.management.registry.listeners,
    t.crowd.management.fleet.journal.heardBy j =
      s.management.fleet.journal.heardBy j ++
        (s.toldIn (.listener j) as).map Telling.transition
  told : ∀ who ∈ s.management.registry.audience, ∀ caller,
    Crowd.toldBy caller (s.toldIn who as) ++ t.crowd.owed who caller =
      s.owed who caller ++ Crowd.madeBy caller (s.madeIn as)
  path : ∀ i, Transition.Path (s.management.stateOf i) (Crowd.madeOf i (s.madeIn as))
    (t.crowd.management.stateOf i)
  once : s.isQuiet = true → t.crowd.isQuiet = true → ∀ who ∈ s.management.registry.audience,
    (s.toldIn who as).Perm ((s.madeIn as).map Change.telling)
  inTurn : s.isQuiet = true → s.callers.length ≤ 1 ∨ s.InTurn as →
    ∀ who ∈ s.management.registry.audience,
      (s.toldIn who as).map Telling.transition ++ t.crowd.owing who =
        (s.madeIn as).map Change.transition

/-- What is known of a subscriber at any time: it is within the channel, what it received is
followed by what waits for it, and it missed nothing. -/
structure Sound (t : Subscription) (past : List Transition) : Prop where
  within : t.position ≤ t.channel.published.length
  received : t.received ++ t.waiting = past
  unmissed : ∀ missed, .lagged missed ∉ t.receipts

/-- A new subscriber received nothing, and nothing waits for it. -/
theorem sound_subscribed (s : Crowd) : s.subscribed.Sound [] where
  within := Nat.le_refl _
  received := List.drop_length
  unmissed _ := List.not_mem_nil

namespace Sound

variable {t : Subscription} {past : List Transition} (h : t.Sound past)

include h

/-- What the channel is told waits for the subscriber. -/
theorem move (a : Crowd.Move) :
    (t.moment (.move a)).Sound (past ++ (t.crowd.told .channel a).map Telling.transition) := by
  have hpublished : (t.moment (.move a)).channel.published =
      t.channel.published ++ (t.crowd.told .channel a).map Telling.transition :=
    Crowd.told_move t.crowd.management.registry.channel_mem_audience a
  refine ⟨?_, ?_, h.unmissed⟩
  · rw [hpublished, List.length_append]
    exact Nat.le_add_right_of_le h.within
  · have hwaiting : (t.moment (.move a)).waiting =
        t.waiting ++ (t.crowd.told .channel a).map Telling.transition := by
      rw [waiting, Channel.waiting, hpublished]
      exact List.drop_append_of_le_length h.within
    rw [hwaiting, ← List.append_assoc]
    exact congrArg (· ++ _) h.received

/-- What is received does not wait any more. -/
theorem receive (hkept : t.KeepsUp) (ended : Bool) : (t.moment (.receive ended)).Sound past := by
  obtain ⟨hconserved, hmissed⟩ := Channel.receive_kept hkept ended
  refine ⟨?_, ?_, ?_⟩
  · show (t.channel.receive ended t.position).2 ≤ t.channel.published.length
    simp only [Channel.receive, if_neg (Nat.not_lt.mpr (Channel.oldest_le hkept))]
    split
    · rename_i ht
      exact (List.getElem?_eq_some_iff.mp ht).1
    · exact h.within
  · have hreceived : (t.moment (.receive ended)).received =
        t.received ++ (t.channel.receive ended t.position).1.transition?.toList := by
      simp only [Subscription.received, moment, List.filterMap_append]
      cases (t.channel.receive ended t.position).1 <;> rfl
    rw [hreceived, List.append_assoc, ← h.received]
    exact congrArg (t.received ++ ·) hconserved
  · intro missed hmem
    rcases List.mem_append.mp hmem with hbefore | hnow
    · exact h.unmissed missed hbefore
    · exact hmissed missed (List.mem_singleton.mp hnow).symm

end Sound

/-- While a subscriber keeps up nothing is missed: what the channel is told goes on in the order of
the moves. -/
theorem Sound.moments {t : Subscription} {past : List Transition} (h : t.Sound past)
    {xs : List Moment} (hkept : t.AlwaysKeepsUp xs) :
    (t.moments xs).crowd = t.crowd.moves (xs.filterMap Moment.move?) ∧
      (t.moments xs).KeepsUp ∧
      (t.moments xs).Sound
        (past ++ (t.crowd.toldIn .channel (xs.filterMap Moment.move?)).map
          Telling.transition) := by
  induction xs generalizing t past with
  | nil =>
      refine ⟨rfl, hkept, ?_⟩
      rw [List.filterMap_nil, Crowd.toldIn, Crowd.along, List.map_nil, List.append_nil]
      exact h
  | cons x rest ih =>
      cases x with
      | move a =>
          obtain ⟨hcrowd, hkeeps, hsound⟩ := ih (h.move a) hkept.2
          refine ⟨hcrowd, hkeeps, ?_⟩
          rw [List.append_assoc, ← List.map_append] at hsound
          exact hsound
      | receive ended => exact ih (h.receive hkept.1 ended) hkept.2

/-- Every subscriber that keeps up is told of everything: whatever any number of callers did before
it subscribed to a registry and whatever they do then, side by side, it is told of the changes of
state of all circuits that the registry ever made. -/
theorem subscriber_is_told_everything (standard : Config) (overrides : List (String × Config))
    (classifier : Option Classifier) (listeners : Nat) (channel : Channel) (callers : Nat)
    (before : List Crowd.Move) (xs : List Moment)
    (hkept : ((Crowd.gathered (.start standard overrides classifier listeners channel)
      callers).moves before).subscribed.AlwaysKeepsUp xs) :
    let s := (Crowd.gathered (.start standard overrides classifier listeners channel)
      callers).moves before
    (s.subscribed.moments xs).Informed s (xs.filterMap Moment.move?) := by
  intro s
  obtain ⟨hcrowd, hkeeps, hsound⟩ := (sound_subscribed s).moments hkept
  refine
    { crowd := hcrowd
      received := hsound.received
      unmissed := hsound.unmissed
      drain := ?_
      heard := ?_
      told := ?_
      path := ?_
      once := ?_
      inTurn := ?_ }
  · intro ended
    apply Channel.drain_kept hkeeps
    rw [Channel.waiting, List.length_drop]
    omega
  · intro j hj
    rw [hcrowd]
    exact Crowd.told_moves (Registry.listener_mem_audience hj) _
  · intro who hwho caller
    rw [hcrowd]
    exact Crowd.tells_moves hwho _ caller
  · rw [hcrowd]
    exact s.path_moves _
  · intro hbefore hafter who hwho
    rw [hcrowd] at hafter
    exact Crowd.told_perm hwho hbefore hafter
  · intro hquiet hordered who hwho
    rw [hcrowd]
    exact Crowd.tells_inTurn hwho (hordered.elim (s.inTurn_alone · _) id) hquiet

/-- A registry with one listener and two callers, of which the first got a permit of the circuit of
a service. -/
def paired : Crowd :=
  (Crowd.gathered (.start .brief [] none 1 ⟨2, []⟩) 2).moves
    [.prepare (.obtain "db"), .start 0 0 .acquire, .proceed 0]

/-- The service is removed while the call is under way, which then fails.  Before this caller has
announced that it opened the circuit, the other one forces open the next circuit of the service. -/
def overtaken : List Moment :=
  [.move (.prepare (.remove "db")), .move (.start 0 0 (.complete 0 .failed)),
    .move (.prepare (.wait (.ofMillis 1))), .move (.prepare (.obtain "db")),
    .move (.start 1 1 .forceOpen), .move (.proceed 1), .move (.proceed 1), .move (.proceed 1),
    .receive false, .move (.proceed 0), .move (.proceed 0), .move (.proceed 0)]

/-- A subscriber receives the later transition first, and the transition of the removed circuit
waits. -/
theorem subscriber_is_told_of_removed :
    (paired.subscribed.moments overtaken).Informed paired (overtaken.filterMap Moment.move?) ∧
      (paired.subscribed.moments overtaken).received = [⟨"db", .closed, .opened, 0⟩] ∧
      (paired.subscribed.moments overtaken).waiting = [⟨"db", .closed, .opened, 0⟩] := by
  refine ⟨?_, by decide +kernel, by decide +kernel⟩
  exact subscriber_is_told_everything .brief [] none 1 ⟨2, []⟩ 2
    [.prepare (.obtain "db"), .start 0 0 .acquire, .proceed 0] overtaken (by decide +kernel)

/-- The first caller forces the circuit open and tells the listener.  Before it tells the channel,
the second one resets the circuit and announces it. -/
def crossed : List Moment :=
  [.move (.start 0 0 .forceOpen), .move (.start 1 0 .reset), .move (.proceed 0),
    .move (.proceed 0), .move (.proceed 1), .move (.proceed 1), .move (.proceed 1),
    .receive false, .move (.proceed 0), .receive false]

/-- A subscriber receives that the circuit closed before it receives that it opened, though it
happened the other way round and the listener was told so. -/
theorem told_out_of_order :
    ¬ ∀ (standard : Config) (overrides : List (String × Config)) (classifier : Option Classifier)
      (listeners : Nat) (channel : Channel) (callers : Nat) (before : List Crowd.Move)
      (xs : List Moment),
      let s := (Crowd.gathered (.start standard overrides classifier listeners channel)
        callers).moves before
      let t := s.subscribed.moments xs
      s.subscribed.AlwaysKeepsUp xs → s.isQuiet = true → t.crowd.isQuiet = true →
      t.received ++ t.waiting =
          (s.madeIn (xs.filterMap Moment.move?)).map Change.transition ∧
        ∀ j < listeners, t.crowd.management.fleet.journal.heardBy j =
          s.management.fleet.journal.heardBy j ++ (t.received ++ t.waiting) := by
  intro hordered
  have hcrossed := hordered .brief [] none 1 ⟨2, []⟩ 2 [.prepare (.obtain "db")] crossed
    (by decide +kernel) (by decide +kernel) (by decide +kernel)
  exact absurd hcrossed.1 (by decide +kernel)

end Subscription

end FailFast
