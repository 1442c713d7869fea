import FailFast.Time.Duration

/-!
# Circuit states and transitions

A circuit is closed and lets calls through, open and rejects them, or half-open and admits a limited
number of trial calls.  A transition names a circuit and the two states between which it moved, at a
reading of its clock.

Main results:

- `State.name_injective`: the names of the states differ.
-/

namespace FailFast

/-- The observable state of a circuit. -/
inductive State where
  | closed
  | opened
  | halfOpen
deriving DecidableEq, Inhabited

namespace State

/-- The name of a state. -/
def name : State → String
  | closed => "CLOSED"
  | opened => "OPEN"
  | halfOpen => "HALF_OPEN"

/-- The name of a state in diagnostics. -/
def label : State → String
  | closed => "Closed"
  | opened => "Open"
  | halfOpen => "HalfOpen"

/-- The state of a given name. -/
def ofName? (s : String) : Option State :=
  if s = "CLOSED" then some closed
  else if s = "OPEN" then some opened
  else if s = "HALF_OPEN" then some halfOpen
  else none

@[simp]
theorem ofName?_name (s : State) : ofName? s.name = some s := by
  cases s <;> rfl

theorem name_injective {a b : State} (h : a.name = b.name) : a = b := by
  have := congrArg ofName? h
  simpa using this

end State

/-- A change of state of one circuit. -/
structure Transition where
  circuit : String
  source : State
  target : State
  /-- The reading of the circuit's clock, in milliseconds. -/
  reading : Nat
deriving DecidableEq, Inhabited

/-- A transition as text. -/
def Transition.text (t : Transition) : String :=
  t.circuit ++ ": " ++ t.source.name ++ " -> " ++ t.target.name

end FailFast
