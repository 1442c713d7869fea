import FailFast.Number.Binary64

/-!
# Shortest decimal notation

A value is written with the fewest digits that read back as it; among equally short numerals the
nearest is taken, and of two equally near ones the greater.  `shortest` finds the digits by trying
grids of 1, 2, … 17 significant digits: on each grid only the two neighbours of the value need a
test, since a numeral further away reads back only if the neighbour on its side does.

`plain` writes them without an exponent, `general` as a literal that is always recognisably
fractional, with an exponent for very small and very large values.

Main results:

- `stripZeros_value`: dropping trailing zeros keeps the value of a numeral.
-/

namespace FailFast.Binary64

/-- A positive decimal numeral, `digits * 10 ^ exponent`. -/
structure Numeral where
  digits : Nat
  exponent : Int
deriving DecidableEq

/-- Move trailing zeros of the digits into the exponent, at most `budget` of them. -/
def Numeral.stripZeros : Nat → Numeral → Numeral
  | 0, d => d
  | budget + 1, d =>
    if d.digits % 10 = 0 then stripZeros budget ⟨d.digits / 10, d.exponent + 1⟩ else d

/-- The value of a numeral in units of `10 ^ base`, for a base at or below its exponent. -/
def Numeral.unitsAt (base : Int) (d : Numeral) : Nat :=
  d.digits * tenPow (d.exponent - base).toNat

theorem Numeral.stripZeros_value (budget : Nat) (base : Int) (d : Numeral)
    (h : base ≤ d.exponent) :
    (stripZeros budget d).unitsAt base = d.unitsAt base := by
  induction budget generalizing d with
  | zero => rfl
  | succ budget ih =>
    unfold stripZeros
    split
    · next hz =>
      rw [ih ⟨d.digits / 10, d.exponent + 1⟩ (by simp; omega)]
      have hexp : (d.exponent + 1 - base).toNat = (d.exponent - base).toNat + 1 := by omega
      have hdig : d.digits / 10 * 10 = d.digits := by omega
      rw [unitsAt, unitsAt, hexp, tenPow_succ, ← Nat.mul_assoc, hdig]
    · rfl

/-- The reals that read back as one rank, counted in halves of the least positive value: the
half-way points to both neighbouring ranks and the value itself.  The half-way points belong to an
even rank. -/
structure Basin where
  low : Nat
  value : Nat
  high : Nat
  closed : Bool

/-- The basin of a positive rank. -/
def basin (rank : Nat) : Basin where
  low := magnitude (rank - 1) + magnitude rank
  value := 2 * magnitude rank
  high := magnitude rank + magnitude (rank + 1)
  closed := rank % 2 == 0

/-- The number of half units in one. -/
def halfUnitsInOne : Nat := 2 * unitsInOne

/-- The exponent of the leading decimal digit of a value counted in half units. -/
def leadingExponent (value : Nat) : Int :=
  let whole := value / halfUnitsInOne
  if whole = 0 then -((Nat.toDigits 10 ((halfUnitsInOne - 1) / value)).length : Int)
  else ((Nat.toDigits 10 whole).length : Int) - 1

/-- The numeral with `count` digits that reads back, where there is one.

Both sides of each comparison are scaled to integers: `grid` is one step of the decimal grid. -/
def Basin.numeral? (b : Basin) (count : Nat) : Option Numeral :=
  let step := leadingExponent b.value + 1 - count
  let grid := halfUnitsInOne * tenPow step.toNat
  let scale := tenPow (-step).toNat
  let low := b.low * scale
  let value := b.value * scale
  let high := b.high * scale
  let down := value / grid
  let up := down + 1
  let downHit := 0 < down && (if b.closed then decide (low ≤ down * grid) else low < down * grid)
  let upHit := if b.closed then decide (up * grid ≤ high) else up * grid < high
  if downHit && (!upHit || value - down * grid < up * grid - value) then some ⟨down, step⟩
  else if upHit then some ⟨up, step⟩
  else none

/-- The shortest numeral that reads back as a positive rank. -/
def shortest (rank : Nat) : Numeral :=
  let b := basin rank
  let found := (List.range 17).findSome? fun i => b.numeral? (i + 1)
  (found.getD ⟨0, 0⟩).stripZeros 17

/-- A run of zeros. -/
def zeros (count : Nat) : String := String.ofList (List.replicate count '0')

/-- A numeral without exponent; whole numbers end with `wholeSuffix`. -/
def Numeral.positional (d : Numeral) (wholeSuffix : String) : String :=
  let text := Nat.repr d.digits
  let point := (text.length : Int) + d.exponent
  if 0 ≤ d.exponent then text ++ zeros d.exponent.toNat ++ wholeSuffix
  else if point ≤ 0 then "0." ++ zeros (-point).toNat ++ text
  else (text.take point.toNat).toString ++ "." ++ (text.drop point.toNat).toString

/-- A numeral with one digit before the point and an exponent. -/
def Numeral.scientific (d : Numeral) : String :=
  let text := Nat.repr d.digits
  let exponent := (text.length : Int) - 1 + d.exponent
  let fraction := (text.drop 1).toString
  (text.take 1).toString ++ (if fraction.isEmpty then "" else "." ++ fraction)
    ++ "e" ++ toString exponent

/-- The sign of a written value. -/
def signText (negative : Bool) : String := if negative then "-" else ""

/-- Shortest notation without exponent; whole numbers have no point. -/
def plain : Binary64 → String
  | nan => "NaN"
  | signed negative rank =>
    signText negative ++
      (if rank = 0 then "0"
      else if infinityRank ≤ rank then "inf"
      else (shortest rank).positional "")

/-- Shortest notation as a fractional literal: whole numbers end in `.0`, and an exponent is used
below `10 ^ -4` and from `10 ^ 16` on. -/
def general : Binary64 → String
  | nan => "NaN"
  | signed negative rank =>
    signText negative ++
      (if rank = 0 then "0.0"
      else if infinityRank ≤ rank then "inf"
      else if rank < rankOfRatio 1 10000 || rankOfNat (tenPow 16) ≤ rank then
        (shortest rank).scientific
      else (shortest rank).positional ".0")

end FailFast.Binary64
