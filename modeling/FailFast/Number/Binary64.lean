/-!
# Binary floating point with 53-bit significands

The non-negative doubles are ordered, so each is named by its rank in that order: rank 0 is zero,
rank 1 the least positive value, and `infinityRank` stands for infinity.  Every rank is a whole
multiple of the least positive value, `magnitude rank` of them, so products and quotients are exact
fractions of natural numbers that are rounded once, to the nearest rank with ties to even.

The parity of a rank is the parity of its significand, which is why "ties to even" can be said of
ranks; and rounding a significand up past 53 bits lands on the next power of two by itself.

Main results:

- `magnitude_of_lt`: below the second binade a rank is its own magnitude.
- `le_refl_signed` and `le_nan_left`: comparison is reflexive on numbers and false on `nan`.
- `bits_signed_false`: the encoding of a non-negative value is its rank.
-/

namespace FailFast

/-- A double: not a number, or a sign and the rank of a magnitude. -/
inductive Binary64 where
  | nan
  | signed (negative : Bool) (rank : Nat)
deriving DecidableEq, Inhabited

namespace Binary64

/-- The number of ranks from one power of two to the next. -/
def binade : Nat := 1 <<< 52

/-- The magnitude of one, counted in units of the least positive value. -/
def unitsInOne : Nat := 1 <<< 1074

/-- The rank of infinity, one above the greatest finite magnitude. -/
def infinityRank : Nat := 2047 * binade

/-- The magnitude of a rank, counted in units of the least positive value.

The first two binades are evenly spaced; each later one doubles the step. -/
def magnitude (rank : Nat) : Nat :=
  if rank < 2 * binade then rank else (binade + rank % binade) <<< (rank / binade - 1)

theorem magnitude_of_lt {rank : Nat} (h : rank < 2 * binade) : magnitude rank = rank := if_pos h

/-! ## Rounding -/

/-- The quotient of two numbers rounded to the nearest integer, a half to the even neighbour. -/
def roundedQuotient (numerator denominator : Nat) : Nat :=
  let quotient := numerator / denominator
  let remainder := numerator % denominator
  if 2 * remainder < denominator then quotient
  else if denominator < 2 * remainder then quotient + 1
  else quotient + quotient % 2

/-- The rank nearest to a fraction, ties to the even rank, infinity once past every finite one.

The significand keeps 53 bits of the quotient, or all of it where fewer are left. -/
def rankOfRatio (numerator denominator : Nat) : Nat :=
  let units := numerator * unitsInOne
  let shift := Nat.log2 (units / denominator) - 52
  min (shift * binade + roundedQuotient units (denominator <<< shift)) infinityRank

/-- The rank nearest to a natural number. -/
def rankOfNat (n : Nat) : Nat := rankOfRatio n 1

/-- The rank nearest to the quotient of the magnitudes of two ranks. -/
def rankQuotient (a b : Nat) : Nat := rankOfRatio (magnitude a) (magnitude b)

/-- The rank nearest to the product of the magnitudes of two ranks. -/
def rankProduct (a b : Nat) : Nat :=
  rankOfRatio (magnitude a * magnitude b) (unitsInOne * unitsInOne)

/-- The value nearest to a natural number. -/
def ofNat (n : Nat) : Binary64 := signed false (rankOfNat n)

/-- Positive zero. -/
def zero : Binary64 := signed false 0

/-- Infinity with the given sign. -/
def infinite (negative : Bool) : Binary64 := signed negative infinityRank

/-- A power of ten. -/
def tenPow (n : Nat) : Nat := Nat.pow 10 n

theorem tenPow_succ (n : Nat) : tenPow (n + 1) = 10 * tenPow n :=
  Nat.mul_comm _ _

/-- The value nearest to `digits * 10 ^ exponent` with the given sign.

Exponents far outside the range decide the answer before any power of ten is formed. -/
def ofDecimal (negative : Bool) (digits : Nat) (exponent : Int) : Binary64 :=
  let leading := ((Nat.toDigits 10 digits).length : Int) + exponent
  if digits = 0 || decide (leading ≤ -400) then signed negative 0
  else if 400 ≤ leading then infinite negative
  else if 0 ≤ exponent then signed negative (rankOfRatio (digits * tenPow exponent.toNat) 1)
  else signed negative (rankOfRatio digits (tenPow (-exponent).toNat))

/-! ## Order -/

/-- The position of a signed rank on the whole line; both zeros share one position. -/
def position (negative : Bool) (rank : Nat) : Int :=
  if negative then -(rank : Int) else rank

/-- Numeric `≤`, which never holds of `nan`. -/
def le : Binary64 → Binary64 → Bool
  | signed s a, signed t b => decide (position s a ≤ position t b)
  | _, _ => false

/-- Numeric `<`, which never holds of `nan`. -/
def lt : Binary64 → Binary64 → Bool
  | signed s a, signed t b => decide (position s a < position t b)
  | _, _ => false

/-- Numeric equality: `nan` differs from itself and the two zeros are equal. -/
def same : Binary64 → Binary64 → Bool
  | signed s a, signed t b => position s a == position t b
  | _, _ => false

/-- Membership in a closed interval; `nan` lies in none. -/
def within (low x high : Binary64) : Bool := le low x && le x high

theorem le_refl_signed (s : Bool) (a : Nat) : le (signed s a) (signed s a) = true := by
  simp [le]

@[simp]
theorem le_nan_left (x : Binary64) : le nan x = false := rfl

@[simp]
theorem le_nan_right (x : Binary64) : le x nan = false := by
  cases x <;> rfl

/-! ## Encoding -/

/-- The 64-bit interchange encoding, with one encoding for `nan`. -/
def bits : Binary64 → Nat
  | nan => 0x7ff8000000000000
  | signed negative rank => (if negative then 1 <<< 63 else 0) + rank

@[simp]
theorem bits_signed_false (rank : Nat) : (signed false rank).bits = rank := by
  simp [bits]

end Binary64

end FailFast
