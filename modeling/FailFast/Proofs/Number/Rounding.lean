import Mathlib.Data.Nat.Log
import Mathlib.Tactic.Linarith
import Mathlib.Tactic.Ring
import FailFast.Proofs.Rates

/-!
# Rounding keeps the order

A fraction is rounded to the nearest rank.  Rounding keeps the order of fractions, because the
significand of a fraction grows with it while the same places are dropped, and a fraction of which
more places are dropped starts where the one before it ends.  The magnitude of a rank grows with the
rank for the same reason.  So whatever is computed by several roundings in turn keeps the order too,
and to bound it for many fractions it is enough to compute it for one.

Numbers of at most 53 places are not rounded at all.

Main results:

- Theorem `Binary64.rankOfRatio_mono`: a smaller fraction has no greater rank.
- Theorem `Binary64.rankOfRatio_congr`: the rank of a fraction depends on its value only.
- Theorem `Binary64.magnitude_mono`: a greater rank has no smaller magnitude.
- Theorem `Binary64.magnitude_rankOfNat`: numbers up to 2 to the 53rd are not rounded.
-/

namespace FailFast

namespace Binary64

/-! ## Rounding to a whole number -/

section Quotient

variable {a b : Nat}

theorem roundedQuotient_below (h : 2 * (a % b) < b) : roundedQuotient a b = a / b := if_pos h

theorem roundedQuotient_above (h : b < 2 * (a % b)) : roundedQuotient a b = a / b + 1 := by
  rw [roundedQuotient, if_neg (Nat.lt_asymm h), if_pos h]

theorem roundedQuotient_tie (h : 2 * (a % b) = b) :
    roundedQuotient a b = a / b + a / b % 2 := by
  rw [roundedQuotient, if_neg (by omega), if_neg (by omega)]

/-- Rounding takes nothing away from the whole part. -/
theorem div_le_roundedQuotient (a b : Nat) : a / b ≤ roundedQuotient a b := by
  rcases Nat.lt_trichotomy (2 * (a % b)) b with hbelow | htie | habove
  · rw [roundedQuotient_below hbelow]
  · rw [roundedQuotient_tie htie]
    omega
  · rw [roundedQuotient_above habove]
    omega

/-- It adds at most one to it. -/
theorem roundedQuotient_le_succ (a b : Nat) : roundedQuotient a b ≤ a / b + 1 := by
  rcases Nat.lt_trichotomy (2 * (a % b)) b with hbelow | htie | habove
  · rw [roundedQuotient_below hbelow]
    omega
  · rw [roundedQuotient_tie htie]
    omega
  · rw [roundedQuotient_above habove]

/-- A smaller fraction has no greater whole part. -/
theorem div_le_div_of_cross {c d : Nat} (hb : 0 < b) (hd : 0 < d) (h : a * d ≤ c * b) :
    a / b ≤ c / d := by
  rw [Nat.le_div_iff_mul_le hd]
  refine Nat.le_of_mul_le_mul_right ?_ hb
  calc
    a / b * d * b = a / b * b * d := Nat.mul_right_comm _ _ _
    _ ≤ a * d := Nat.mul_le_mul_right d (Nat.div_mul_le_self a b)
    _ ≤ c * b := h

/-- A smaller fraction is not rounded to a greater number. -/
theorem roundedQuotient_mono {c d : Nat} (hb : 0 < b) (hd : 0 < d) (h : a * d ≤ c * b) :
    roundedQuotient a b ≤ roundedQuotient c d := by
  have ha : b * (a / b) + a % b = a := Nat.div_add_mod a b
  have hc : d * (c / d) + c % d = c := Nat.div_add_mod c d
  rcases Nat.lt_or_eq_of_le (div_le_div_of_cross hb hd h) with hless | hsame
  · calc
      roundedQuotient a b ≤ a / b + 1 := roundedQuotient_le_succ a b
      _ ≤ c / d := hless
      _ ≤ roundedQuotient c d := div_le_roundedQuotient c d
  · -- Where the whole parts agree the remainders decide.
    have hrest : a % b * d ≤ c % d * b := by
      rw [hsame] at ha
      nlinarith
    rcases Nat.lt_trichotomy (2 * (a % b)) b with hbelow | htie | habove
    · rw [roundedQuotient_below hbelow, hsame]
      exact div_le_roundedQuotient c d
    · have hhalf : d ≤ 2 * (c % d) := by
        refine Nat.le_of_mul_le_mul_right ?_ hb
        nlinarith
      rw [roundedQuotient_tie htie, hsame]
      rcases Nat.lt_or_eq_of_le hhalf with hmore | hexact
      · rw [roundedQuotient_above hmore]
        omega
      · rw [roundedQuotient_tie hexact.symm]
    · have hmore : d < 2 * (c % d) := by
        refine Nat.lt_of_mul_lt_mul_right (a := b) ?_
        nlinarith
      rw [roundedQuotient_above habove, roundedQuotient_above hmore, hsame]

end Quotient

/-! ## Rounding to a rank -/

section Ratio

variable {a b c d : Nat}

/-- The significand of a rounded fraction has at most 53 places, counting the one that rounding may
carry into. -/
theorem significand_le (units denominator : Nat) :
    roundedQuotient units (denominator <<< (Nat.log2 (units / denominator) - 52)) ≤ 2 * binade := by
  have hbinade : binade = 2 ^ 52 := Nat.one_shiftLeft 52
  have hwhole : units / denominator / 2 ^ (Nat.log2 (units / denominator) - 52) < 2 ^ 53 := by
    rw [Nat.div_lt_iff_lt_mul (Nat.two_pow_pos _), ← Nat.pow_add]
    refine Nat.lt_of_lt_of_le Nat.lt_log2_self (Nat.pow_le_pow_right (by decide) (by omega))
  rw [Nat.div_div_eq_div_mul, ← Nat.shiftLeft_eq] at hwhole
  have hround := roundedQuotient_le_succ units
    (denominator <<< (Nat.log2 (units / denominator) - 52))
  omega

/-- Where places were dropped it has exactly 53. -/
theorem le_significand (units denominator : Nat)
    (h : 0 < Nat.log2 (units / denominator) - 52) :
    binade ≤ roundedQuotient units (denominator <<< (Nat.log2 (units / denominator) - 52)) := by
  have hbinade : binade = 2 ^ 52 := Nat.one_shiftLeft 52
  have hnonzero : units / denominator ≠ 0 := by
    intro hzero
    rw [hzero] at h
    exact absurd h (by decide)
  refine Nat.le_trans ?_ (div_le_roundedQuotient _ _)
  rw [Nat.shiftLeft_eq, ← Nat.div_div_eq_div_mul, hbinade,
    Nat.le_div_iff_mul_le (Nat.two_pow_pos _), ← Nat.pow_add]
  refine Nat.le_trans (Nat.pow_le_pow_right (by decide) ?_) (Nat.log2_self_le hnonzero)
  omega

/-- A smaller fraction has no greater rank. -/
theorem rankOfRatio_mono (hb : 0 < b) (hd : 0 < d) (h : a * d ≤ c * b) :
    rankOfRatio a b ≤ rankOfRatio c d := by
  have hunits : a * unitsInOne * d ≤ c * unitsInOne * b := by
    rw [Nat.mul_right_comm, Nat.mul_right_comm c]
    exact Nat.mul_le_mul_right unitsInOne h
  simp only [rankOfRatio]
  generalize a * unitsInOne = units at hunits ⊢
  generalize c * unitsInOne = units' at hunits ⊢
  have hshift : Nat.log2 (units / b) - 52 ≤ Nat.log2 (units' / d) - 52 := by
    rw [Nat.log2_eq_log_two, Nat.log2_eq_log_two]
    exact Nat.sub_le_sub_right (Nat.log_mono_right (div_le_div_of_cross hb hd hunits)) 52
  have hlow := significand_le units b
  have hhigh := le_significand units' d
  refine Nat.le_min.mpr ⟨Nat.le_trans (Nat.min_le_left _ _) ?_, Nat.min_le_right _ _⟩
  generalize Nat.log2 (units / b) - 52 = shift at hshift hlow ⊢
  generalize Nat.log2 (units' / d) - 52 = shift' at hshift hhigh ⊢
  rcases Nat.lt_or_eq_of_le hshift with hless | rfl
  · -- A fraction of fewer places ends below the least one of more places.
    have hplaces : binade ≤ roundedQuotient units' (d <<< shift') := hhigh (by omega)
    have hnext : (shift + 1) * binade ≤ shift' * binade := Nat.mul_le_mul_right binade hless
    rw [Nat.succ_mul] at hnext
    omega
  · have hpower : 0 < 2 ^ shift := Nat.two_pow_pos shift
    refine Nat.add_le_add_left (roundedQuotient_mono ?_ ?_ ?_) _
    · rw [Nat.shiftLeft_eq]
      exact Nat.mul_pos hb hpower
    · rw [Nat.shiftLeft_eq]
      exact Nat.mul_pos hd hpower
    · rw [Nat.shiftLeft_eq, Nat.shiftLeft_eq, ← Nat.mul_assoc, ← Nat.mul_assoc]
      exact Nat.mul_le_mul_right _ hunits

/-- Fractions of the same value have the same rank. -/
theorem rankOfRatio_congr (hb : 0 < b) (hd : 0 < d) (h : a * d = c * b) :
    rankOfRatio a b = rankOfRatio c d :=
  Nat.le_antisymm (rankOfRatio_mono hb hd h.le) (rankOfRatio_mono hd hb h.ge)

end Ratio

/-! ## Ranks and their magnitudes -/

/-- A rank is made of the places that were dropped and the significand that was kept. -/
theorem magnitude_split {significand : Nat} (hlow : binade ≤ significand)
    (hhigh : significand < 2 * binade) (shift : Nat) :
    magnitude (shift * binade + significand) = significand <<< shift := by
  have hbinade : 0 < binade := by decide
  rcases Nat.eq_zero_or_pos shift with rfl | hshift
  · rw [Nat.zero_mul, Nat.zero_add, magnitude_of_lt hhigh, Nat.shiftLeft_zero]
  · have hlarge : binade ≤ shift * binade := Nat.le_mul_of_pos_left binade hshift
    have hrank : shift * binade + significand = significand - binade + (shift + 1) * binade := by
      rw [Nat.succ_mul]
      omega
    have hrest : significand - binade < binade := by omega
    rw [magnitude, if_neg (by omega), hrank, Nat.add_mul_mod_self_right, Nat.mod_eq_of_lt hrest,
      Nat.add_mul_div_right _ _ hbinade, Nat.div_eq_of_lt hrest, Nat.zero_add,
      Nat.add_sub_cancel, Nat.add_sub_cancel' hlow]

/-- Every rank but the least ones is made so. -/
theorem exists_split (rank : Nat) (h : binade ≤ rank) :
    ∃ shift significand, binade ≤ significand ∧ significand < 2 * binade ∧
      rank = shift * binade + significand := by
  have hbinade : 0 < binade := by decide
  have hwhole : 0 < rank / binade := Nat.div_pos h hbinade
  have hrest : rank % binade < binade := Nat.mod_lt rank hbinade
  have hsplit : rank / binade * binade + rank % binade = rank := Nat.div_add_mod' rank binade
  refine ⟨rank / binade - 1, binade + rank % binade, by omega, by omega, ?_⟩
  rw [Nat.sub_mul, Nat.one_mul]
  have hone : binade ≤ rank / binade * binade := Nat.le_mul_of_pos_left binade hwhole
  omega

/-- A greater rank has no smaller magnitude. -/
theorem magnitude_mono {r s : Nat} (h : r ≤ s) : magnitude r ≤ magnitude s := by
  by_cases hsmall : s < 2 * binade
  · rw [magnitude_of_lt hsmall, magnitude_of_lt (Nat.lt_of_le_of_lt h hsmall)]
    exact h
  obtain ⟨shift', significand', hlow', hhigh', rfl⟩ := exists_split s (by omega)
  rw [magnitude_split hlow' hhigh', Nat.shiftLeft_eq]
  by_cases hleast : r < binade
  · rw [magnitude_of_lt (by omega)]
    calc
      r ≤ significand' := by omega
      _ ≤ significand' * 2 ^ shift' := Nat.le_mul_of_pos_right _ (Nat.two_pow_pos shift')
  obtain ⟨shift, significand, hlow, hhigh, rfl⟩ := exists_split r (by omega)
  rw [magnitude_split hlow hhigh, Nat.shiftLeft_eq]
  rcases Nat.lt_trichotomy shift shift' with hless | rfl | hmore
  · calc
      significand * 2 ^ shift ≤ 2 * binade * 2 ^ shift := Nat.mul_le_mul_right _ hhigh.le
      _ = binade * 2 ^ (shift + 1) := by
        rw [Nat.pow_succ, Nat.mul_comm 2 binade, Nat.mul_assoc, Nat.mul_comm 2]
      _ ≤ significand' * 2 ^ shift' :=
        Nat.mul_le_mul hlow' (Nat.pow_le_pow_right (by decide) hless)
  · exact Nat.mul_le_mul_right _ (by omega)
  · have hnext : (shift' + 1) * binade ≤ shift * binade := Nat.mul_le_mul_right binade hmore
    rw [Nat.succ_mul] at hnext
    omega

/-- The places of a significand that is shifted. -/
theorem log2_shifted {significand : Nat} (hlow : binade ≤ significand)
    (hhigh : significand < 2 * binade) (shift : Nat) :
    Nat.log2 (significand <<< shift) = shift + 52 := by
  have hbinade : binade = 2 ^ 52 := Nat.one_shiftLeft 52
  have hpower : 0 < 2 ^ shift := Nat.two_pow_pos shift
  rw [Nat.shiftLeft_eq, Nat.log2_eq_iff (Nat.mul_ne_zero (by omega) hpower.ne')]
  constructor
  · rw [Nat.add_comm, Nat.pow_add]
    exact Nat.mul_le_mul_right _ (by omega)
  · rw [Nat.add_assoc, Nat.add_comm, Nat.pow_add]
    exact Nat.mul_lt_mul_of_pos_right (by omega) hpower

/-- A fraction whose significand is whole is not rounded. -/
theorem magnitude_rankOfRatio_of_exact {a b significand : Nat} (hb : 0 < b)
    (hlow : binade ≤ significand) (hhigh : significand < 2 * binade) {shift : Nat}
    (hshift : shift + 2 ≤ 2047) (hexact : a * unitsInOne = (b <<< shift) * significand) :
    magnitude (rankOfRatio a b) * b = a * unitsInOne := by
  have hpower : 0 < b <<< shift := by
    rw [Nat.shiftLeft_eq]
    exact Nat.mul_pos hb (Nat.two_pow_pos shift)
  have hwhole : a * unitsInOne / b = significand <<< shift := by
    rw [hexact, Nat.shiftLeft_eq, Nat.shiftLeft_eq, Nat.mul_assoc, Nat.mul_div_cancel_left _ hb,
      Nat.mul_comm]
  have hplaces : Nat.log2 (significand <<< shift) - 52 = shift := by
    rw [log2_shifted hlow hhigh]
    omega
  have hfinite : shift * binade + significand ≤ infinityRank := by
    rw [infinityRank]
    have := Nat.mul_le_mul_right binade hshift
    rw [Nat.add_mul] at this
    omega
  simp only [rankOfRatio, hwhole, hplaces]
  rw [hexact, roundedQuotient_mul hpower, Nat.min_eq_left hfinite, magnitude_split hlow hhigh]
  rw [Nat.shiftLeft_eq, Nat.shiftLeft_eq, Nat.mul_right_comm, Nat.mul_comm significand,
    Nat.mul_right_comm]

/-- Numbers up to 2 to the 53rd are not rounded. -/
theorem magnitude_rankOfNat {n : Nat} (h : n ≤ 1 <<< 53) :
    magnitude (rankOfNat n) = n * unitsInOne := by
  rcases Nat.eq_zero_or_pos n with rfl | hpos
  · decide +kernel
  rcases Nat.lt_or_eq_of_le h with hless | rfl
  · have hbinade : binade = 2 ^ 52 := Nat.one_shiftLeft 52
    have hnonzero : n ≠ 0 := by omega
    rw [Nat.one_shiftLeft] at hless
    have hlog : Nat.log2 n < 53 := (Nat.log2_lt hnonzero).mpr hless
    have hplaces : 2 ^ 52 = 2 ^ Nat.log2 n * 2 ^ (52 - Nat.log2 n) := by
      rw [← Nat.pow_add]
      congr 1
      omega
    have hpower : 0 < 2 ^ (52 - Nat.log2 n) := Nat.two_pow_pos _
    have hexact : n * unitsInOne =
        (1 <<< (Nat.log2 n + 1022)) * (n * 2 ^ (52 - Nat.log2 n)) := by
      obtain ⟨rest, hshift, hunits⟩ :
          ∃ rest, 2 ^ (Nat.log2 n + 1022) = 2 ^ Nat.log2 n * rest ∧ unitsInOne = 2 ^ 52 * rest :=
        ⟨2 ^ 1022, Nat.pow_add _ _ _, by decide +kernel⟩
      rw [hunits, hplaces, Nat.one_shiftLeft, hshift]
      ring
    rw [← Nat.mul_one (magnitude (rankOfNat n))]
    refine magnitude_rankOfRatio_of_exact Nat.one_pos ?_ ?_ ?_ hexact
    · rw [hbinade, hplaces]
      exact Nat.mul_le_mul_right _ (Nat.log2_self_le hnonzero)
    · rw [hbinade, hplaces, ← Nat.mul_assoc, Nat.mul_comm 2, ← Nat.pow_succ]
      exact Nat.mul_lt_mul_of_pos_right Nat.lt_log2_self hpower
    · omega
  · decide +kernel

end Binary64

end FailFast
