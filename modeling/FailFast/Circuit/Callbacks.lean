import FailFast.Circuit.Journal
import FailFast.Time.Clock

/-!
# Callbacks

Listeners are told of every transition, in the order in which they were registered; then the hook of
the state that was entered is called.  A hook may act on the breaker, and what it does may depend on
everything noted since the operation began.  It may also take its time: each thing that it does
reads the clock anew, and what is left of the operation goes on when the hook is done.

A hook that acts causes transitions of its own, for which hooks are called again.  `depth` bounds
how many levels of such hooks still act: below the last level hooks are called but stay passive.

Main results:

- `Callbacks.announce_breaker_passive`: passive callbacks leave the breaker alone.
-/

namespace FailFast

/-- What a hook does to the breaker. -/
inductive Reaction where
  /-- Take some time. -/
  | wait (d : Duration)
  | reset
  | forceOpen
  | check
  /-- Make a call whose operation does something to the breaker too, or takes some time, and then
  ends with an error or else with success. -/
  | call (inside : List Reaction) (error : Option Fault)
  /-- Take a permit and give it back. -/
  | acquire
deriving Inhabited

/-- Make a call that fails. -/
def Reaction.fail : Reaction := .call [] (some (.text "hook"))

/-- A callback for entering a state. -/
structure Hook where
  reactions : Journal → List Reaction

instance : Inhabited Hook := ⟨⟨fun _ => []⟩⟩

/-- A hook that only watches. -/
def Hook.passive : Hook := ⟨fun _ => []⟩

/-- A hook that always does the same. -/
def Hook.always (r : Reaction) : Hook := ⟨fun _ => [r]⟩

/-- The callbacks of a circuit. -/
structure Callbacks where
  listeners : Nat
  onOpen : Option Hook
  onClose : Option Hook
  onHalfOpen : Option Hook
  /-- Whether transitions are also published to subscribers. -/
  publishes : Bool
  /-- How many levels of hooks act below one another. -/
  depth : Nat
deriving Inhabited

namespace Callbacks

/-- No callbacks. -/
def none : Callbacks := ⟨0, .none, .none, .none, false, 0⟩

/-- Listeners and nothing else. -/
def listening (listeners : Nat) : Callbacks := { none with listeners }

/-- The hook of a state. -/
def hook? (c : Callbacks) : State → Option Hook
  | .closed => c.onClose
  | .opened => c.onOpen
  | .halfOpen => c.onHalfOpen

/-- The number of listeners, the publishing one included. -/
def listenerCount (c : Callbacks) : Nat := if c.publishes then c.listeners + 1 else c.listeners

/-- Callbacks in diagnostics. -/
def debugText (c : Callbacks) : String :=
  "Callbacks \x7b on_open: " ++ toString c.onOpen.isSome ++ ", on_close: "
    ++ toString c.onClose.isSome ++ ", on_half_open: " ++ toString c.onHalfOpen.isSome
    ++ ", listeners: " ++ Nat.repr c.listenerCount ++ " \x7d"

/-- The notes of everyone who is told of a transition while the circuit is in state `seen`. -/
def told (c : Callbacks) (t : Transition) (seen : State) : Journal :=
  ((List.range c.listeners).map fun i => Note.heard i t seen)
    ++ (if (c.hook? t.target).isSome then [.hooked t.target t.circuit seen] else [])

end Callbacks

/-! ## Scenes -/

/-- How a breaker was left when something let go of it. -/
structure Glimpse where
  state : State
  instant : Instant
  /-- Whether it was reset. -/
  isReset : Bool
deriving DecidableEq, Inhabited

/-- A breaker in the course of an operation, with its clock, the instant to which the operation has
come, what was noted since it began, and how the breaker was left each time since then. -/
structure Scene where
  breaker : Breaker
  clock : Clock
  instant : Instant
  journal : Journal
  trail : List Glimpse
deriving Inhabited

/-- Tell the world of a transition. -/
abbrev Announcer := Scene → Transition → Scene

namespace Scene

/-- The reading of the clock. -/
def now (s : Scene) : Nat := s.clock.reading s.instant

/-- Let time pass. -/
def wait (s : Scene) (d : Duration) : Scene := { s with instant := s.instant + d.nanos }

/-- Add a note. -/
def note (s : Scene) (n : Note) : Scene := { s with journal := s.journal ++ [n] }

/-- Leave a breaker behind. -/
def leave (s : Scene) (b : Breaker) (isReset : Bool) : Scene :=
  { s with breaker := b, trail := s.trail ++ [⟨b.state, s.instant, isReset⟩] }

/-- Announce a transition, if there was one. -/
def tell (s : Scene) (announce : Announcer) : Option Transition → Scene
  | none => s
  | some t => announce s t

/-- Take over what an operation made of the breaker and announce its transition. -/
def settle (s : Scene) (announce : Announcer) (m : Moved) : Scene :=
  (s.leave m.breaker false).tell announce m.transition

/-- Apply the transitions due; the answer is the state they lead to. -/
def check (s : Scene) (announce : Announcer) : Scene × State :=
  let m := s.breaker.check s.now
  (s.settle announce m, m.breaker.state)

/-- Ask to run one call; a rejection is counted after its transition was announced. -/
def acquire (s : Scene) (announce : Announcer) : Scene × Except Rejection Nat :=
  let (m, verdict) := s.breaker.attempt s.now
  let s := s.settle announce m
  match verdict with
  | .granted generation => (s, .ok generation)
  | .rejected state retryAfter =>
    let r : Rejection := ⟨s.breaker.name, state, retryAfter⟩
    ((s.leave s.breaker.countRejection false).note (.rejected r), .error r)

/-- Record the outcome of a call. -/
def complete (s : Scene) (announce : Announcer) (generation : Nat) (succeeded timedOut : Bool)
    (elapsed : Duration) : Scene :=
  if s.breaker.generation ≠ generation then s.note (.discarded s.breaker.name)
  else
    let o : Outcome := ⟨succeeded, elapsed.millis, s.now, timedOut⟩
    s.settle announce (s.breaker.complete s.now generation o)

/-- Hand back a permit that was not used. -/
def release (s : Scene) (generation : Nat) : Scene :=
  s.leave (s.breaker.release generation) false

/-- End a call with an error: record it, or hand back the permit if it is not to be recorded. -/
def fault (s : Scene) (announce : Announcer) (classifier : Option Classifier) (generation : Nat)
    (fault : Fault) (elapsed : Duration) : Scene :=
  let recorded := match classifier with
    | none => true
    | some c => c.records s.breaker.name fault elapsed
  if recorded then s.complete announce generation false false elapsed
  else (s.note (.ignored s.breaker.name)).release generation

/-- Open the circuit until the next reset. -/
def forceOpen (s : Scene) (announce : Announcer) : Scene :=
  let noted := if s.breaker.isForced then s else s.note (.forcedOpen s.breaker.name)
  noted.settle announce (s.breaker.forceOpen s.now)

/-- Close the circuit with an empty window. -/
def reset (s : Scene) (announce : Announcer) : Scene :=
  ((s.note (.reset s.breaker.name)).leave (s.breaker.reset s.now).breaker true).tell announce
    (s.breaker.reset s.now).transition

/-! ## Reactions -/

/-- End a call with the error of its operation, or else with success. -/
def finish (s : Scene) (announce : Announcer) (classifier : Option Classifier) (generation : Nat)
    (elapsed : Duration) : Option Fault → Scene
  | none => s.complete announce generation true false elapsed
  | some fault => s.fault announce classifier generation fault elapsed

mutual

/-- Let a hook act. -/
def react (announce : Announcer) (classifier : Option Classifier) (s : Scene) : Reaction → Scene
  | .wait d => s.wait d
  | .reset => s.reset announce
  | .forceOpen => s.forceOpen announce
  | .check =>
    let (s, state) := s.check announce
    s.note (.checked s.breaker.name state)
  | .call inside error =>
    match s.acquire announce with
    | (s, .error _) => s.note (.called s.breaker.name true)
    | (begun, .ok generation) =>
      let done := begun.reactAll announce classifier inside
      (done.finish announce classifier generation ⟨done.instant - begun.instant⟩ error).note
        (.called begun.breaker.name false)
  | .acquire =>
    match s.acquire announce with
    | (s, .error _) => s.note (.acquired s.breaker.name false)
    | (s, .ok generation) => (s.release generation).note (.acquired s.breaker.name true)

/-- Let a hook act several times. -/
def reactAll (announce : Announcer) (classifier : Option Classifier) (s : Scene) :
    List Reaction → Scene
  | [] => s
  | reaction :: rest => (s.react announce classifier reaction).reactAll announce classifier rest

end

end Scene

namespace Callbacks

/-- Log a transition and tell all callbacks of it; none of them acts. -/
def announcePassively (c : Callbacks) : Announcer := fun s t =>
  { s with journal := s.journal ++ .moved t :: c.told t s.breaker.state }

/-- Log a transition, tell all callbacks of it, and let the hook act, `depth` levels deep. -/
def announce (c : Callbacks) (classifier : Option Classifier) : Nat → Announcer
  | 0 => c.announcePassively
  | depth + 1 => fun s t =>
    let s := c.announcePassively s t
    let reactions := ((c.hook? t.target).map (·.reactions s.journal)).getD []
    s.reactAll (c.announce classifier depth) classifier reactions

@[simp]
theorem announce_breaker_passive (c : Callbacks) (classifier : Option Classifier) (s : Scene)
    (t : Transition) : (c.announce classifier 0 s t).breaker = s.breaker := rfl

end Callbacks

end FailFast
