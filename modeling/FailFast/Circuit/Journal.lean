import FailFast.Circuit.Failure

/-!
# The journal

What an observer of circuits can note, in the order in which it happens: calls of listeners and
hooks, what hooks did, and log lines.  A journal is one list of such notes; the events that
callbacks see and the lines of the log are two views of it.

Main results:

- `Note.transition?_moved`: a transition can be read back from its note.
- `events_append`, `logLines_append`: both views are taken note by note.
-/

namespace FailFast

/-- Something worth noting. -/
inductive Note where
  /-- A circuit changed its state. -/
  | moved (t : Transition)
  /-- A listener was told of a transition; `seen` is the state it read. -/
  | heard (listener : Nat) (t : Transition) (seen : State)
  /-- The hook of a state was called; `seen` is the state it read. -/
  | hooked (target : State) (circuit : String) (seen : State)
  /-- A hook applied the transitions due and found a state. -/
  | checked (circuit : String) (state : State)
  /-- A hook made a call. -/
  | called (circuit : String) (rejected : Bool)
  /-- A hook took a permit and gave it back. -/
  | acquired (circuit : String) (granted : Bool)
  | rejected (r : Rejection)
  | discarded (circuit : String)
  | forcedOpen (circuit : String)
  | reset (circuit : String)
  | timedOut (circuit : String) (timeout : Duration)
  | ignored (circuit : String)
  | created (circuit : String)
  | reconfigured (circuit : String)
  | sweeperStopped
deriving DecidableEq, Inhabited

/-! ## Events -/

/-- What callbacks report. -/
inductive Event where
  | heard (listener : Nat) (t : Transition) (seen : State)
  | hooked (target : State) (circuit : String) (seen : State)
  | checked (circuit : String) (state : State)
  | called (circuit : String) (rejected : Bool)
  | acquired (circuit : String) (granted : Bool)
deriving DecidableEq, Inhabited

/-- The circuit that an event is about. -/
def Event.circuit : Event → String
  | heard _ t _ => t.circuit
  | hooked _ circuit _ => circuit
  | checked circuit _ => circuit
  | called circuit _ => circuit
  | acquired circuit _ => circuit

/-! ## Log lines -/

/-- The weight of a log line. -/
inductive Level where
  | debug
  | info
  | warn
deriving DecidableEq, Inhabited

/-- The name of a level. -/
def Level.name : Level → String
  | debug => "DEBUG"
  | info => "INFO"
  | warn => "WARN"

/-- A message with named details. -/
structure LogLine where
  level : Level
  message : String
  fields : List (String × String)
deriving DecidableEq, Inhabited

namespace LogLine

/-- A line about one circuit. -/
def about (level : Level) (message circuit : String) : LogLine :=
  ⟨level, message, [("circuit", circuit)]⟩

/-- The circuit that a line is about; empty when it is about none. -/
def circuit (l : LogLine) : String := (l.fields.lookup "circuit").getD ""

/-- The line for a transition. -/
def ofTransition (t : Transition) : LogLine :=
  let fields := [("circuit", t.circuit), ("from", t.source.name)]
  match t.target with
  | .opened => ⟨.warn, "circuit opened, rejecting calls", fields⟩
  | .halfOpen => ⟨.info, "circuit half-open, probing", fields⟩
  | .closed => ⟨.info, "circuit closed", fields⟩

end LogLine

/-! ## Views -/

namespace Note

/-- The transition that a note announces. -/
def transition? : Note → Option Transition
  | moved t => some t
  | _ => none

/-- The event in a note. -/
def event? : Note → Option Event
  | heard i t seen => some (.heard i t seen)
  | hooked target circuit seen => some (.hooked target circuit seen)
  | checked circuit state => some (.checked circuit state)
  | called circuit refused => some (.called circuit refused)
  | acquired circuit granted => some (.acquired circuit granted)
  | _ => none

/-- The log line of a note. -/
def logLine? : Note → Option LogLine
  | moved t => some (.ofTransition t)
  | rejected r =>
    some ⟨.debug, "call not permitted",
      [("circuit", r.circuit), ("state", r.state.name), ("retry_after", r.retryAfter.text)]⟩
  | discarded circuit =>
    some (.about .debug
      "discarding outcome of a call admitted before the last state change" circuit)
  | forcedOpen circuit => some (.about .warn "circuit forced open" circuit)
  | reset circuit => some (.about .info "circuit reset" circuit)
  | timedOut circuit timeout =>
    some ⟨.warn, "call timed out", [("circuit", circuit), ("timeout", timeout.text)]⟩
  | ignored circuit => some (.about .debug "error ignored by failure classifier" circuit)
  | created circuit => some (.about .debug "creating circuit breaker" circuit)
  | reconfigured circuit => some (.about .info "circuit breaker reconfigured" circuit)
  | sweeperStopped => some ⟨.debug, "transition sweeper stopped", []⟩
  | _ => none

@[simp]
theorem transition?_moved (t : Transition) : (moved t).transition? = some t := rfl

end Note

/-- Notes in the order in which they were made. -/
abbrev Journal := List Note

namespace Journal

/-- The transitions of a journal. -/
def transitions (j : Journal) : List Transition := j.filterMap Note.transition?

/-- What callbacks reported. -/
def events (j : Journal) : List Event := j.filterMap Note.event?

/-- What was logged. -/
def logLines (j : Journal) : List LogLine := j.filterMap Note.logLine?

@[simp]
theorem events_append (a b : Journal) : events (a ++ b) = events a ++ events b :=
  List.filterMap_append

@[simp]
theorem logLines_append (a b : Journal) : logLines (a ++ b) = logLines a ++ logLines b :=
  List.filterMap_append

@[simp]
theorem transitions_append (a b : Journal) :
    transitions (a ++ b) = transitions a ++ transitions b :=
  List.filterMap_append

end Journal

end FailFast
