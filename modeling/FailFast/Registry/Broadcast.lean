import FailFast.Circuit.State

/-!
# Broadcasting transitions

Subscribers of a channel each receive every transition published after they subscribed, in order.
The channel keeps the latest transitions only: a subscriber that fell behind is told once how many
it missed and goes on with the oldest one kept.

Main results:

- `Channel.receive_next`: a subscriber within the kept part receives the next transition.
- `Channel.receive_end`: at the end it finds nothing, and the channel closed once no one can
  publish.
- `Channel.ofCapacity_le`: a channel keeps at least as many transitions as asked for.
-/

namespace FailFast

/-- The least power of two that is not below a number. -/
def ceilPowerOfTwo (n : Nat) : Nat := if n ≤ 1 then 1 else 2 <<< Nat.log2 (n - 1)

theorem le_ceilPowerOfTwo (n : Nat) : n ≤ ceilPowerOfTwo n := by
  simp only [ceilPowerOfTwo]
  split
  · omega
  · have := @Nat.lt_log2_self (n - 1)
    omega

/-- A broadcast channel with everything that was ever published on it. -/
structure Channel where
  capacity : Nat
  published : List Transition
deriving DecidableEq, Inhabited

/-- What a subscriber receives. -/
inductive Receipt where
  | transition (t : Transition)
  | lagged (missed : Nat)
  | empty
  | closed
deriving DecidableEq, Inhabited

/-- Why there is no channel that keeps a number of transitions. -/
inductive CapacityError where
  /-- The number is beyond the greatest that may be asked for. -/
  | tooMany
  /-- There is no room for that many. -/
  | tooMuchRoom
deriving DecidableEq, Inhabited

/-- A capacity error in words. -/
def CapacityError.message : CapacityError → String
  | tooMany => "broadcast channel capacity exceeded `usize::MAX / 2`"
  | tooMuchRoom => "capacity overflow"

namespace Channel

/-- A channel that keeps at least the given number of transitions, and at least one.

Room for all of them is set aside at once, a power of two of places of 64 bytes, and no more than
half of all addresses can be set aside. -/
def ofCapacity (n : Nat) : Except CapacityError Channel :=
  let capacity := ceilPowerOfTwo (max n 1)
  if 1 <<< 63 ≤ n then .error .tooMany
  else if 1 <<< 63 ≤ capacity * 64 then .error .tooMuchRoom
  else .ok ⟨capacity, []⟩

/-- The number of transitions kept unless another is asked for. -/
def standardCapacity : Nat := 64

/-- A channel that keeps the standard number of transitions. -/
def standard : Channel := ⟨standardCapacity, []⟩

/-- Publish transitions in order. -/
def publish (ch : Channel) (ts : List Transition) : Channel :=
  { ch with published := ch.published ++ ts }

/-- The position of the oldest transition kept. -/
def oldest (ch : Channel) : Nat := ch.published.length - ch.capacity

/-- Where a new subscriber starts. -/
def subscribe (ch : Channel) : Nat := ch.published.length

/-- Receive at a position; `ended` says that no one can publish any more. -/
def receive (ch : Channel) (ended : Bool) (position : Nat) : Receipt × Nat :=
  if position < ch.oldest then (.lagged (ch.oldest - position), ch.oldest)
  else
    match ch.published[position]? with
    | some t => (.transition t, position + 1)
    | none => (if ended then .closed else .empty, position)

/-- Receive until nothing is left, in at most `fuel` steps. -/
def drain (ch : Channel) (ended : Bool) : Nat → Nat → List Receipt × Nat
  | 0, position => ([], position)
  | fuel + 1, position =>
    match ch.receive ended position with
    | (.empty, position) => ([.empty], position)
    | (.closed, position) => ([.closed], position)
    | (receipt, position) =>
      let (rest, position) := ch.drain ended fuel position
      (receipt :: rest, position)

theorem ofCapacity_standard : ofCapacity standardCapacity = .ok standard := rfl

theorem ofCapacity_le {n : Nat} {ch : Channel} (h : ofCapacity n = .ok ch) : n ≤ ch.capacity := by
  simp only [ofCapacity] at h
  split at h
  · cases h
  · split at h
    · cases h
    · cases h
      exact Nat.le_trans (Nat.le_max_left n 1) (le_ceilPowerOfTwo _)

theorem receive_next {ch : Channel} {ended : Bool} {position : Nat} {t : Transition}
    (hkept : ch.oldest ≤ position) (ht : ch.published[position]? = some t) :
    ch.receive ended position = (.transition t, position + 1) := by
  simp [receive, Nat.not_lt.mpr hkept, ht]

theorem receive_end {ch : Channel} {ended : Bool} :
    ch.receive ended ch.published.length
      = (if ended then .closed else .empty, ch.published.length) := by
  have : ¬ ch.published.length < ch.oldest := by simp only [oldest]; omega
  simp [receive, this]

end Channel

end FailFast
