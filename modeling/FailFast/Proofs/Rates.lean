import FailFast.Config.Validation

/-!
# The rate of failures where all calls failed

A rate is a quotient and a product, each rounded once.  Where all calls failed neither is rounded:
the quotient of a number and itself is exactly one, whatever the number was rounded to before, and
the product is exactly one hundred.  No threshold of an accepted configuration is higher, so calls
that all failed reach it.

Main results:

- Theorem `Binary64.rankOfRatio_self`: a number divided by itself is one.
- Theorem `percentage_self`: all of some calls are one hundred per cent of them.
- Theorem `Config.Valid.breached_of_failures`: calls that all failed reach every accepted threshold.
-/

namespace FailFast

namespace Binary64

/-- A multiple is divided without rounding. -/
theorem roundedQuotient_mul {d : Nat} (hd : 0 < d) (q : Nat) : roundedQuotient (d * q) d = q := by
  simp [roundedQuotient, Nat.mul_div_cancel_left q hd, hd]

/-- A number divided by itself is one. -/
theorem rankOfRatio_self {m : Nat} (hm : 0 < m) : rankOfRatio m m = rankOfNat 1 := by
  have hone : m * unitsInOne / m = unitsInOne := Nat.mul_div_cancel_left _ hm
  have hshift : Nat.log2 unitsInOne - 52 = 1022 := by decide +kernel
  have hunits : m * unitsInOne = (m <<< 1022) * binade := by
    have hsplit : unitsInOne = 2 ^ 1022 * binade := by decide +kernel
    rw [hsplit, Nat.shiftLeft_eq, Nat.mul_assoc]
  have hpositive : 0 < m <<< 1022 := by
    rw [Nat.shiftLeft_eq]
    exact Nat.mul_pos hm (Nat.two_pow_pos 1022)
  have hvalue : min (1022 * binade + binade) infinityRank = rankOfNat 1 := by decide +kernel
  simp only [rankOfRatio, hone, hshift]
  rw [hunits, roundedQuotient_mul hpositive, hvalue]

/-- A positive rank has a positive magnitude. -/
theorem magnitude_pos {rank : Nat} (h : 0 < rank) : 0 < magnitude rank := by
  unfold magnitude
  split
  · exact h
  · rw [Nat.shiftLeft_eq]
    have hbinade : 0 < binade := by decide
    exact Nat.mul_pos (by omega) (Nat.two_pow_pos _)

/-- A positive number has no fewer binary places than one. -/
theorem le_log2_units {n : Nat} (hn : 0 < n) : 1074 ≤ Nat.log2 (n * unitsInOne) := by
  have hnonzero : n * unitsInOne ≠ 0 := Nat.mul_ne_zero (by omega) (by decide +kernel)
  rw [Nat.le_log2 hnonzero, unitsInOne, Nat.one_shiftLeft]
  exact Nat.le_mul_of_pos_left _ hn

/-- A positive number has a positive rank. -/
theorem rankOfNat_pos {n : Nat} (hn : 0 < n) : 0 < rankOfNat n := by
  have hlog := le_log2_units hn
  have hbinade : 0 < binade := by decide
  have hinfinity : 0 < infinityRank := by decide
  have hshift : 0 < (Nat.log2 (n * unitsInOne) - 52) * binade := Nat.mul_pos (by omega) hbinade
  simp only [rankOfNat, rankOfRatio, Nat.div_one]
  omega

end Binary64

/-- All of some calls are one hundred per cent of them. -/
theorem percentage_self {n : Nat} (hn : 0 < n) : percentage n n = .ofNat 100 := by
  have hmagnitude := Binary64.magnitude_pos (Binary64.rankOfNat_pos hn)
  have hproduct : Binary64.rankProduct (Binary64.rankOfNat 1) (Binary64.rankOfNat 100) =
      Binary64.rankOfNat 100 := by decide +kernel
  have hzero : n ≠ 0 := by omega
  simp only [percentage, if_neg hzero, Binary64.rankQuotient, Binary64.rankOfRatio_self hmagnitude,
    hproduct]
  rfl

/-- Calls that all failed reach every threshold of an accepted configuration. -/
theorem Config.Valid.breached_of_failures {config : Config} (hvalid : config.Valid)
    {counts : Counts} (hall : counts.failures = counts.total) (hsome : 0 < counts.total) :
    config.breached counts = true := by
  have hthreshold : config.failureRate.le (.ofNat 100) = true := by
    have hwithin := hvalid.failureRate
    simp only [Binary64.within, Bool.and_eq_true] at hwithin
    exact hwithin.2
  rw [Config.breached_iff]
  left
  rw [Counts.failureRate, hall, percentage_self hsome]
  exact hthreshold

end FailFast
