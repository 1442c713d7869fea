import FailFast.Proofs.Number.Rounding

/-!
# Rates at whole percentages

A rate is rounded twice, once when the part is divided by the total and once when the quotient is
multiplied by one hundred, and then it is compared with a threshold.  Where the threshold is a whole
percentage `p`, the exact answer is whether `p * total ≤ 100 * part`.

At equality the quotient is `p / 100` whatever the counts are, so the answer depends on `p` alone:
it is right but for three percentages, whose rates are rounded down to below themselves.  A greater
rate is at least as great when rounded, so at all other percentages a rate that reaches the
threshold is seen to reach it.  And a rate that differs from the threshold by some least part of one per cent
is always told from it: it is enough to compute the two rates at that distance from each threshold.
A total that is not greater than the number of those parts makes no smaller difference.

Main results:

- Theorem `percentage_eq`: a rate is its share, rounded, times one hundred, rounded.
- Theorem `reaches_of_equal`, theorem `reaches_of_above` and theorem `misses_of_below`: rates that
  are at a threshold or differ enough from it.
- Theorem `Config.breached_iff_attains`: a breach at whole percentages is decided by counting.
-/

namespace FailFast

open Binary64 (rankOfNat rankOfRatio rankOfRatio_mono rankOfRatio_congr unitsInOne magnitude)

/-! ## Rates as ranks -/

/-- The rate, as a rank, of a share of the total that was rounded to a rank. -/
def rateOfShare (share : Nat) : Nat := Binary64.rankProduct share (rankOfNat 100)

theorem unitsInOne_pos : 0 < unitsInOne := by decide +kernel

/-- A greater share has no smaller rate. -/
theorem rateOfShare_mono {r s : Nat} (h : r ≤ s) : rateOfShare r ≤ rateOfShare s := by
  have hunits : 0 < unitsInOne * unitsInOne := Nat.mul_pos unitsInOne_pos unitsInOne_pos
  refine rankOfRatio_mono hunits hunits ?_
  exact Nat.mul_le_mul_right _ (Nat.mul_le_mul_right _ (Binary64.magnitude_mono h))

/-- The rate of a part of a total, as a rank. -/
def rate (part total : Nat) : Nat := rateOfShare (rankOfRatio part total)

/-- A smaller share of the total has no greater rate. -/
theorem rate_mono {a b c d : Nat} (hb : 0 < b) (hd : 0 < d) (h : a * d ≤ c * b) :
    rate a b ≤ rate c d :=
  rateOfShare_mono (rankOfRatio_mono hb hd h)

/-- Up to 2 to the 53rd the counts themselves are not rounded, so a rate is rounded just twice. -/
theorem percentage_eq {part total : Nat} (hsome : 0 < total) (hpart : part ≤ total)
    (hfit : total ≤ 1 <<< 53) : percentage part total = .signed false (rate part total) := by
  have hquotient : Binary64.rankQuotient (rankOfNat part) (rankOfNat total) =
      rankOfRatio part total := by
    rw [Binary64.rankQuotient, Binary64.magnitude_rankOfNat (Nat.le_trans hpart hfit),
      Binary64.magnitude_rankOfNat hfit]
    refine rankOfRatio_congr (Nat.mul_pos hsome unitsInOne_pos) hsome ?_
    rw [Nat.mul_right_comm, Nat.mul_assoc]
  rw [percentage, if_neg (by omega), hquotient]
  rfl

/-- A threshold is reached when its rank is. -/
theorem le_percentage_iff {part total : Nat} (hsome : 0 < total) (hpart : part ≤ total)
    (hfit : total ≤ 1 <<< 53) (p : Nat) :
    (Binary64.ofNat p).le (percentage part total) = true ↔ rankOfNat p ≤ rate part total := by
  rw [percentage_eq hsome hpart hfit]
  simp [Binary64.ofNat, Binary64.le, Binary64.position]

/-! ## Rates at and near a threshold -/

/-- The percentages that a rate of exactly so many per cent is rounded down to miss. -/
def unreached : List Nat := [29, 57, 58]

/-- The number of parts of one per cent in which rates are always told apart. -/
def resolution : Nat := 1 <<< 46

/-- Whether a rate of exactly a whole percentage reaches it. -/
theorem reaches_hundredths : ∀ p ≤ 100, rankOfNat p ≤ rate p 100 ↔ p ∉ unreached := by
  decide +kernel

section Near

variable {p part total : Nat} (hp : p ≤ 100) (hsome : 0 < total)

include hp hsome

/-- Whether a rate of exactly the threshold reaches it depends on the threshold only. -/
theorem reaches_of_equal (h : p * total = 100 * part) :
    rankOfNat p ≤ rate part total ↔ p ∉ unreached := by
  have hshare : rankOfRatio part total = rankOfRatio p 100 := by
    refine rankOfRatio_congr hsome (by decide) ?_
    rw [h, Nat.mul_comm]
  rw [rate, hshare]
  exact reaches_hundredths p hp

/-- Where such a rate reaches it, so does every greater one. -/
theorem reaches_of_le (hreached : p ∉ unreached) (h : p * total ≤ 100 * part) :
    rankOfNat p ≤ rate part total := by
  refine Nat.le_trans ((reaches_hundredths p hp).mpr hreached) (rate_mono (by decide) hsome ?_)
  rw [Nat.mul_comm part]
  exact h

/-- Everywhere a rate reaches the threshold that is greater by the least part. -/
theorem reaches_of_above (h : resolution * (p * total) + total ≤ resolution * (100 * part)) :
    rankOfNat p ≤ rate part total := by
  by_cases hreached : p ∈ unreached
  · have hcomputed : ∀ p ∈ unreached,
        rankOfNat p ≤ rate (p * resolution + 1) (100 * resolution) := by
      decide +kernel
    refine Nat.le_trans (hcomputed p hreached) (rate_mono (by decide) hsome ?_)
    calc
      (p * resolution + 1) * total = resolution * (p * total) + total := by ring
      _ ≤ resolution * (100 * part) := h
      _ = part * (100 * resolution) := by ring
  · refine reaches_of_le hp hsome hreached ?_
    exact Nat.le_of_mul_le_mul_left (Nat.le_of_add_right_le h) (by decide)

/-- A rate that is smaller by the least part does not reach it. -/
theorem misses_of_below (h : resolution * (100 * part) + total ≤ resolution * (p * total)) :
    rate part total < rankOfNat p := by
  have hcomputed : ∀ p ≤ 100, 0 < p →
      rate (p * resolution - 1) (100 * resolution) < rankOfNat p := by
    decide +kernel
  have hpositive : 0 < p := by
    rcases Nat.eq_zero_or_pos p with rfl | hpositive
    · rw [Nat.zero_mul, Nat.mul_zero] at h
      omega
    · exact hpositive
  refine Nat.lt_of_le_of_lt (rate_mono hsome (by decide) ?_) (hcomputed p hp hpositive)
  calc
    part * (100 * resolution) = resolution * (100 * part) := by ring
    _ ≤ resolution * (p * total) - total := by omega
    _ = (p * resolution - 1) * total := by
      rw [Nat.sub_mul, Nat.one_mul, Nat.mul_assoc, Nat.mul_left_comm]

end Near

/-! ## Counting -/

/-- A part comes to a whole percentage of the total, and to more than that where a rate of exactly
that percentage misses it. -/
def Attains (p part total : Nat) : Prop :=
  if p ∈ unreached then p * total < 100 * part else p * total ≤ 100 * part

instance (p part total : Nat) : Decidable (Attains p part total) :=
  inferInstanceAs (Decidable
    (if p ∈ unreached then p * total < 100 * part else p * total ≤ 100 * part))

/-- A rate is exactly the threshold, or differs from it by the least part at least. -/
def Discerned (p part total : Nat) : Prop :=
  p * total = 100 * part ∨ total ≤ resolution * (p * total - 100 * part : Int).natAbs

instance (p part total : Nat) : Decidable (Discerned p part total) :=
  inferInstanceAs (Decidable (p * total = 100 * part ∨
    total ≤ resolution * (p * total - 100 * part : Int).natAbs))

section Counting

variable {p part total : Nat}

/-- A total of no more than the number of parts makes every difference great enough. -/
theorem discerned_of_le (h : total ≤ resolution) : Discerned p part total := by
  by_cases hequal : p * total = 100 * part
  · exact Or.inl hequal
  · refine Or.inr (Nat.le_trans h (Nat.le_mul_of_pos_right _ ?_))
    omega

/-- More than a percentage is always enough. -/
theorem attains_of_lt (h : p * total < 100 * part) : Attains p part total := by
  unfold Attains
  split
  · exact h
  · exact h.le

/-- Less is never enough. -/
theorem not_attains_of_lt (h : 100 * part < p * total) : ¬Attains p part total := by
  unfold Attains
  split <;> omega

/-- A rate that is told from the threshold reaches it if the part attains it. -/
theorem reaches_iff_attains (hp : p ≤ 100) (hsome : 0 < total)
    (hdiscerned : Discerned p part total) :
    rankOfNat p ≤ rate part total ↔ Attains p part total := by
  rcases Nat.lt_trichotomy (p * total) (100 * part) with habove | hequal | hbelow
  · refine iff_of_true (reaches_of_above hp hsome ?_) (attains_of_lt habove)
    have hapart := hdiscerned.resolve_left habove.ne
    have hsize : (p * total - 100 * part : Int).natAbs = 100 * part - p * total := by omega
    rw [hsize, Nat.mul_sub] at hapart
    have hscaled := Nat.mul_le_mul_left resolution habove.le
    omega
  · rw [reaches_of_equal hp hsome hequal, Attains, hequal]
    split <;> simp_all
  · refine iff_of_false (Nat.not_le_of_lt (misses_of_below hp hsome ?_))
      (not_attains_of_lt hbelow)
    have hapart := hdiscerned.resolve_left hbelow.ne'
    have hsize : (p * total - 100 * part : Int).natAbs = p * total - 100 * part := by omega
    rw [hsize, Nat.mul_sub] at hapart
    have hscaled := Nat.mul_le_mul_left resolution hbelow.le
    omega

end Counting

/-- Where the thresholds are whole percentages, a breach is decided by counting, for all totals
whose rates are told from the thresholds: those up to `resolution` at any rate.  At the percentages whose
own rate reaches them, every rate at or above the threshold is a breach, whatever the total. -/
theorem Config.breached_iff_attains {config : Config} {counts : Counts} {p q : Nat} (hp : p ≤ 100)
    (hq : q ≤ 100) (hfailure : config.failureRate = .ofNat p) (hslow : config.slowRate = .ofNat q)
    (hsome : 0 < counts.total) (hfit : counts.total ≤ 1 <<< 53)
    (hfailures : counts.failures ≤ counts.total) (hslows : counts.slow ≤ counts.total) :
    (counts.total ≤ resolution →
      (config.breached counts = true ↔
        Attains p counts.failures counts.total ∨ Attains q counts.slow counts.total)) ∧
    (Discerned p counts.failures counts.total → Discerned q counts.slow counts.total →
      (config.breached counts = true ↔
        Attains p counts.failures counts.total ∨ Attains q counts.slow counts.total)) ∧
    (p ∉ unreached → p * counts.total ≤ 100 * counts.failures → config.breached counts = true) ∧
    (q ∉ unreached → q * counts.total ≤ 100 * counts.slow → config.breached counts = true) := by
  have hbreached : config.breached counts = true ↔
      rankOfNat p ≤ rate counts.failures counts.total ∨
        rankOfNat q ≤ rate counts.slow counts.total := by
    rw [Config.breached_iff, hfailure, hslow, Counts.failureRate, Counts.slowRate,
      le_percentage_iff hsome hfailures hfit, le_percentage_iff hsome hslows hfit]
  have hdecided : Discerned p counts.failures counts.total →
      Discerned q counts.slow counts.total →
      (config.breached counts = true ↔
        Attains p counts.failures counts.total ∨ Attains q counts.slow counts.total) := by
    intro hleft hright
    rw [hbreached, reaches_iff_attains hp hsome hleft, reaches_iff_attains hq hsome hright]
  refine ⟨fun hsmall => hdecided (discerned_of_le hsmall) (discerned_of_le hsmall), hdecided,
    ?_, ?_⟩
  · intro hreached hattained
    exact hbreached.mpr (Or.inl (reaches_of_le hp hsome hreached hattained))
  · intro hreached hattained
    exact hbreached.mpr (Or.inr (reaches_of_le hq hsome hreached hattained))

/-- A configuration whose circuit opens at a failure rate, over the last 100 calls. -/
def Config.opensAt (p : Nat) : Config :=
  { Config.standard with failureRate := .ofNat p, minimumCalls := 100, windowSize := 100 }

/-- One more failure in 100 calls than the threshold, of 29 per cent, is a breach. -/
theorem Config.breached_at_thirty_of_hundred :
    (Config.opensAt 29).Valid ∧ (Config.opensAt 29).breached ⟨100, 70, 30, 0⟩ = true := by
  have hfailure : (Config.opensAt 29).failureRate = .ofNat 29 := rfl
  have hslow : (Config.opensAt 29).slowRate = .ofNat 100 := rfl
  have hsome : 0 < (Counts.mk 100 70 30 0).total := by decide
  have hdecided := Config.breached_iff_attains (by decide) (by decide) hfailure hslow hsome
    (by decide) (by decide) (by decide)
  refine ⟨Config.check_isOk_iff.mp (by decide +kernel), ?_⟩
  exact (hdecided.1 (by decide)).mpr (by decide)

/-- But 29 failures in 100 calls are none, though they are 29 per cent.  On the other hand there are
totals so great that a rate below the threshold, here of 67 per cent, is a breach. -/
theorem Config.breach_not_exact :
    ¬((Config.opensAt 29).breached ⟨100, 71, 29, 0⟩ = true ↔
      29 * 100 ≤ 100 * 29 ∨ 100 * 100 ≤ 100 * 0) ∧
    ¬((Config.opensAt 67).breached ⟨79010519778503, 26073471526906, 52937048251597, 0⟩ = true ↔
      67 * 79010519778503 ≤ 100 * 52937048251597 ∨ 100 * 79010519778503 ≤ 100 * 0) := by
  decide +kernel

end FailFast
