/-!
# 64-bit words

Counts, readings and milliseconds are natural numbers that a caller keeps below `wordCount`.  Three
operations leave that range and say how they come back: `wrapWord` keeps the low 64 bits, while
`addClipped` and `mulClipped` stop at the greatest word.

Main results:

- `wrapWord_lt` and `wrapWord_of_lt`: wrapping lands in range and is the identity there.
- `addClipped_le` and `addClipped_of_le`: a clipped sum never passes the greatest word and is the
  plain sum whenever that fits.
-/

namespace FailFast

/-- The number of 64-bit words. -/
def wordCount : Nat := 18446744073709551616

/-- The greatest 64-bit word. -/
def maxWord : Nat := 18446744073709551615

/-- The low 64 bits of a number. -/
def wrapWord (n : Nat) : Nat := n % wordCount

/-- The sum of two words, or the greatest word where the sum does not fit. -/
def addClipped (a b : Nat) : Nat := min (a + b) maxWord

/-- The product of two words, or the greatest word where the product does not fit. -/
def mulClipped (a b : Nat) : Nat := min (a * b) maxWord

theorem wrapWord_lt (n : Nat) : wrapWord n < wordCount :=
  Nat.mod_lt n (by decide)

theorem wrapWord_of_lt {n : Nat} (h : n < wordCount) : wrapWord n = n :=
  Nat.mod_eq_of_lt h

theorem addClipped_le (a b : Nat) : addClipped a b ≤ maxWord :=
  Nat.min_le_right _ _

theorem addClipped_of_le {a b : Nat} (h : a + b ≤ maxWord) : addClipped a b = a + b :=
  Nat.min_eq_left h

end FailFast
