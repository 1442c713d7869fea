import FailFast.Toml.Number

/-!
# Dates and times

Dates and times are checked and kept as written: a date, a time of day, or both, with an optional
offset when both are there.

Main results:

- `monthLength_pos`: every month has days.
-/

namespace FailFast.Toml

/-- A number of exactly `count` digits, within bounds. -/
def fixedNumber (count low high : Nat) : Reader Nat := fun cs =>
  let ds := cs.take count
  let value := digitsValue 10 ds
  if ds.length = count && ds.all isDecimal && decide (low ≤ value) && decide (value ≤ high) then
    some (value, cs.drop count)
  else none

/-- A given character. -/
def expect (c : Char) : List Char → Option (List Char)
  | d :: rest => if c = d then some rest else none
  | [] => none

/-- Whether a year has a leap day. -/
def isLeapYear (year : Nat) : Bool := year % 4 = 0 && (year % 100 ≠ 0 || year % 400 = 0)

/-- The number of days of a month. -/
def monthLength (year month : Nat) : Nat :=
  if month = 2 then if isLeapYear year then 29 else 28
  else if month = 4 || month = 6 || month = 9 || month = 11 then 30
  else 31

theorem monthLength_pos (year month : Nat) : 0 < monthLength year month := by
  simp only [monthLength]
  split
  · split <;> decide
  · split <;> decide

/-- A date. -/
def date (cs : List Char) : Option (List Char) := do
  let (year, cs) ← fixedNumber 4 0 9999 cs
  let cs ← expect '-' cs
  let (month, cs) ← fixedNumber 2 1 12 cs
  let cs ← expect '-' cs
  let (_, cs) ← fixedNumber 2 1 (monthLength year month) cs
  return cs

/-- Hours and minutes. -/
def hourMinute (cs : List Char) : Option (List Char) := do
  let (_, cs) ← fixedNumber 2 0 23 cs
  let cs ← expect ':' cs
  let (_, cs) ← fixedNumber 2 0 59 cs
  return cs

/-- A fraction of a second, if there is one. -/
def secondFraction : List Char → List Char
  | '.' :: c :: rest => if isDecimal c then rest.dropWhile isDecimal else '.' :: c :: rest
  | cs => cs

/-- A time of day; a minute may have a leap second. -/
def timeOfDay (cs : List Char) : Option (List Char) := do
  let cs ← hourMinute cs
  let cs ← expect ':' cs
  let (_, cs) ← fixedNumber 2 0 60 cs
  return secondFraction cs

/-- An offset from universal time, if there is one. -/
def offset : List Char → Option (List Char)
  | c :: rest =>
    if c = 'Z' || c = 'z' then some rest
    else if c = '+' || c = '-' then hourMinute rest
    else some (c :: rest)
  | [] => some []

/-- The part after a date, if a time follows it. -/
def timeAfterDate (cs : List Char) : Option (List Char) :=
  match cs with
  | c :: rest =>
    if c = 'T' || c = 't' || c = ' ' then
      match timeOfDay rest with
      | some after => offset after
      | none => some cs
    else some cs
  | [] => some []

/-- A date, a time, or both, as written. -/
def dateTime : Reader String := fun cs => do
  let rest ←
    match date cs with
    | some rest => timeAfterDate rest
    | none => timeOfDay cs
  return (String.ofList (cs.take (cs.length - rest.length)), rest)

end FailFast.Toml
