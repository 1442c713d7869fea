import FailFast.Number.Word

/-!
# Durations

A duration is a whole number of nanoseconds.  Breakers compare milliseconds: `millis` drops what is
below a millisecond and keeps the low 64 bits of the rest.

Main results:

- `millis_ofMillis`: a word of milliseconds comes back unchanged.
- `parts_eq`: a duration is its seconds and the nanoseconds below them.
-/

namespace FailFast

/-- A length of time in nanoseconds. -/
structure Duration where
  nanos : Nat
deriving DecidableEq, Inhabited

namespace Duration

/-- The empty duration. -/
def zero : Duration := ⟨0⟩

/-- The longest duration: the greatest word of seconds and all nanoseconds below the next. -/
def longest : Duration := ⟨wordCount * 1000000000 - 1⟩

/-- Seconds and nanoseconds. -/
def ofParts (seconds subsecond : Nat) : Duration := ⟨seconds * 1000000000 + subsecond⟩

/-- Whole milliseconds. -/
def ofMillis (ms : Nat) : Duration := ⟨ms * 1000000⟩

/-- The whole seconds of a duration. -/
def seconds (d : Duration) : Nat := d.nanos / 1000000000

/-- The nanoseconds below the last whole second. -/
def subsecond (d : Duration) : Nat := d.nanos % 1000000000

/-- Whole milliseconds as a 64-bit word. -/
def millis (d : Duration) : Nat := wrapWord (d.nanos / 1000000)

/-- The least number of whole milliseconds that covers a duration. -/
def millisUp (d : Duration) : Nat := (d.nanos + 999999) / 1000000

theorem parts_eq (d : Duration) : ofParts d.seconds d.subsecond = d := by
  cases d
  simp [ofParts, seconds, subsecond]
  omega

@[simp]
theorem millis_ofMillis {ms : Nat} (h : ms < wordCount) : (ofMillis ms).millis = ms := by
  simp [ofMillis, millis, wrapWord_of_lt h]

/-! ## Text -/

/-- A fraction below one unit of `10 ^ places` parts, after a point and without trailing zeros. -/
def fractionText (parts places : Nat) : String :=
  if parts = 0 then ""
  else
    let digits := Nat.toDigits 10 parts
    let padded := List.replicate (places - digits.length) '0' ++ digits
    "." ++ String.ofList (padded.reverse.dropWhile (· == '0')).reverse

/-- An exact decimal in the greatest of seconds, milliseconds, microseconds and nanoseconds that
gives a whole part of at least one. -/
def text (d : Duration) : String :=
  if 1000000000 ≤ d.nanos then Nat.repr d.seconds ++ fractionText d.subsecond 9 ++ "s"
  else if 1000000 ≤ d.nanos then
    Nat.repr (d.nanos / 1000000) ++ fractionText (d.nanos % 1000000) 6 ++ "ms"
  else if 1000 ≤ d.nanos then
    Nat.repr (d.nanos / 1000) ++ fractionText (d.nanos % 1000) 3 ++ "µs"
  else Nat.repr d.nanos ++ "ns"

end Duration

end FailFast
