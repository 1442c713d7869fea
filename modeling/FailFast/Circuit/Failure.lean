import FailFast.Circuit.Breaker

/-!
# Failures

What a guarded call can fail with, and which failures count.

A call is rejected without running, given up after its timeout, or fails with an error of its own,
which is handed back untouched.  A classifier decides whether an error of a call is recorded as a
failure.

Main results:

- `CallError.isOpen_open`, `CallError.isTimeout_timeout`: the tests recognise their kinds.
- `Classifier.records_everything`: the default classifier records every error.
-/

namespace FailFast

/-- The error of an operation: a text or a code. -/
inductive Fault where
  | text (text : String)
  | code (code : Int)
deriving DecidableEq, Inhabited

/-- An error as text. -/
def Fault.message : Fault → String
  | text s => s
  | code n => toString n

/-- A rejected attempt. -/
structure Rejection where
  circuit : String
  state : State
  retryAfter : Duration
deriving DecidableEq, Inhabited

/-- A rejection as text. -/
def Rejection.message (r : Rejection) : String :=
  "circuit '" ++ r.circuit ++ "' is " ++ r.state.name ++ ", call not permitted (retry in "
    ++ r.retryAfter.text ++ ")"

/-- The failure of a guarded call. -/
inductive CallError where
  /-- The call was rejected and the operation did not run. -/
  | rejected (r : Rejection)
  /-- The operation did not end within the call timeout. -/
  | timedOut (circuit : String) (timeout : Duration)
  /-- The operation failed. -/
  | failed (fault : Fault)
deriving DecidableEq, Inhabited

namespace CallError

/-- A failure as text. -/
def message : CallError → String
  | rejected r => r.message
  | timedOut circuit timeout => "circuit '" ++ circuit ++ "' call timed out after " ++ timeout.text
  | failed fault => fault.message

/-- Whether the call was rejected. -/
def isOpen : CallError → Bool
  | rejected _ => true
  | _ => false

/-- Whether the call was given up after its timeout. -/
def isTimeout : CallError → Bool
  | timedOut _ _ => true
  | _ => false

/-- The error of the operation itself. -/
def fault? : CallError → Option Fault
  | failed fault => some fault
  | _ => none

@[simp]
theorem isOpen_open (r : Rejection) : (rejected r).isOpen = true := rfl

@[simp]
theorem isTimeout_timeout (circuit : String) (timeout : Duration) :
    (timedOut circuit timeout).isTimeout = true := rfl

end CallError

/-! ## Classifiers -/

/-- Which errors are recorded as failures. -/
inductive Classifier where
  /-- All of them. -/
  | everything
  /-- Codes from a least one on; texts too. -/
  | codesFrom (least : Int)
  /-- Texts that start with the given one; codes too. -/
  | textsWith (start : String)
  /-- Errors of calls that ran at least so long. -/
  | slowerThan (least : Duration)
  /-- Errors of the circuit of the given name. -/
  | circuitNamed (name : String)
  /-- Errors that a test of the circuit's name, the error and the time of the call accepts. -/
  | accepting (test : String → Fault → Duration → Bool)
deriving Inhabited

namespace Classifier

/-- Whether an error of a call on a circuit, after the given time, is recorded as a failure. -/
def records (c : Classifier) (circuit : String) (fault : Fault) (elapsed : Duration) : Bool :=
  match c, fault with
  | everything, _ => true
  | codesFrom least, .code n => decide (least ≤ n)
  | codesFrom _, .text _ => true
  | textsWith start, .text s => start.toList.isPrefixOf s.toList
  | textsWith _, .code _ => true
  | slowerThan least, _ => decide (least.nanos ≤ elapsed.nanos)
  | circuitNamed name, _ => circuit == name
  | accepting test, _ => test circuit fault elapsed

/-- A classifier in diagnostics; what a predicate tests is not shown. -/
def debugText : Classifier → String
  | everything => "DefaultClassifier"
  | _ => "PredicateClassifier \x7b predicate: \"<closure>\" \x7d"

@[simp]
theorem records_everything (circuit : String) (fault : Fault) (elapsed : Duration) :
    everything.records circuit fault elapsed = true := rfl

end Classifier

end FailFast
