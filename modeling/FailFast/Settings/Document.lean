import FailFast.Settings
import FailFast.Toml.Document

/-!
# Settings documents

A settings document has a table `defaults` and a table `services` of tables, all optional.  The
entries of a breaker are named, or given by position when an array stands in for a table.  A key
that is not an entry is refused inside these tables; at the top of the document other keys are left
unread.

Main results:

- `ServiceSettings.readEntry_unknown`: a key that names no entry is refused.
- `Settings.ofEntries?_nil`: an empty document gives the standard settings.
-/

namespace FailFast

namespace Toml.Value

/-- A number as a double; integers are rounded to the nearest. -/
def toBinary64? : Value → Option Binary64
  | float x => some x
  | integer i => some (.signed (decide (i < 0)) (Binary64.rankOfNat i.natAbs))
  | _ => none

/-- A natural number. -/
def toNat? : Value → Option Nat
  | integer i => if 0 ≤ i then some i.toNat else none
  | _ => none

/-- A truth value. -/
def toBool? : Value → Option Bool
  | boolean b => some b
  | _ => none

/-- Whether a value is an empty array or table. -/
def isEmptyCollection : Value → Bool
  | array items => items.isEmpty
  | table _ entries => entries.isEmpty
  | _ => false

/-- A window kind: its name, or a table with an empty collection under its name. -/
def toWindowKind? : Value → Option WindowKind
  | string s => WindowKind.ofName? s
  | table _ [(name, content)] => if content.isEmptyCollection then WindowKind.ofName? name else none
  | _ => none

/-- The items of an array or of a list of tables. -/
def toItems? : Value → Option (List Value)
  | array items => some items
  | tables sections => some (sections.map (table .header))
  | _ => none

end Toml.Value

open Toml (Value Entries)

namespace ServiceSettings

/-- The names of the entries, in order. -/
def entryNames : List String :=
  ["failure-rate-threshold", "minimum-number-of-calls", "sliding-window-type",
    "sliding-window-size", "wait-duration-in-open-state-ms",
    "permitted-number-of-calls-in-half-open-state", "max-wait-duration-in-half-open-state-ms",
    "call-timeout-ms", "slow-call-duration-threshold-ms", "slow-call-rate-threshold",
    "automatic-transition-from-open-to-half-open", "jitter-factor"]

/-- Set the entry of a given name. -/
def readEntry (s : ServiceSettings) (name : String) (value : Value) : Option ServiceSettings :=
  match name with
  | "failure-rate-threshold" => value.toBinary64?.map fun x => { s with failureRate := some x }
  | "minimum-number-of-calls" => value.toNat?.map fun n => { s with minimumCalls := some n }
  | "sliding-window-type" => value.toWindowKind?.map fun k => { s with windowKind := some k }
  | "sliding-window-size" => value.toNat?.map fun n => { s with windowSize := some n }
  | "wait-duration-in-open-state-ms" => value.toNat?.map fun n => { s with openWait := some n }
  | "permitted-number-of-calls-in-half-open-state" =>
    value.toNat?.map fun n => { s with trialCalls := some n }
  | "max-wait-duration-in-half-open-state-ms" =>
    value.toNat?.map fun n => { s with trialWait := some n }
  | "call-timeout-ms" => value.toNat?.map fun n => { s with callTimeout := some n }
  | "slow-call-duration-threshold-ms" => value.toNat?.map fun n => { s with slowCall := some n }
  | "slow-call-rate-threshold" => value.toBinary64?.map fun x => { s with slowRate := some x }
  | "automatic-transition-from-open-to-half-open" =>
    value.toBool?.map fun b => { s with probesItself := some b }
  | "jitter-factor" => value.toBinary64?.map fun x => { s with jitter := some x }
  | _ => none

/-- Set entries in turn. -/
def readEntries (entries : Entries) : Option ServiceSettings :=
  entries.foldlM (fun s e => s.readEntry e.1 e.2) unset

/-- The entries that a table names, or that an array gives by position. -/
def ofValue? (value : Value) : Option ServiceSettings :=
  match value with
  | .table _ entries => readEntries entries
  | _ => value.toItems?.bind fun items => readEntries (entryNames.zip items)

theorem readEntry_unknown {s : ServiceSettings} {name : String} {value : Value}
    (h : name ∉ entryNames) : s.readEntry name value = none := by
  simp only [entryNames, List.mem_cons, List.not_mem_nil, or_false, not_or] at h
  obtain ⟨h1, h2, h3, h4, h5, h6, h7, h8, h9, h10, h11, h12⟩ := h
  unfold readEntry
  split <;> first | contradiction | rfl

end ServiceSettings

namespace Settings

/-- The service tables of a document. -/
def servicesOf? : Value → Option (List (String × ServiceSettings))
  | .table _ entries => entries.mapM fun e => (ServiceSettings.ofValue? e.2).map (e.1, ·)
  | _ => none

/-- The settings that a table describes. -/
def ofEntries? (entries : Entries) : Option Settings := do
  let defaults ←
    match entries.lookup "defaults" with
    | none => some .standard
    | some value => (ServiceSettings.ofValue? value).map (·.withDefaults .standard)
  let services ←
    match entries.lookup "services" with
    | none => some []
    | some value => servicesOf? value
  return ⟨defaults, services⟩

/-- The settings that a document describes. -/
def read (text : String) : Except ConfigError Settings :=
  match (Toml.parse text).bind ofEntries? with
  | some settings => .ok settings
  | none => .error (.malformed "not a settings document")

@[simp]
theorem ofEntries?_nil : ofEntries? [] = some standard := rfl

end Settings

end FailFast
