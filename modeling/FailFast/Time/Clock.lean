import FailFast.Time.Duration

/-!
# Clocks

Instants are nanoseconds of one monotonic time line.  A clock is anchored at an instant and reads
the whole milliseconds since then, as a 64-bit word.

Main results:

- `reading_anchor`: a clock reads zero at its anchor.
- `reading_mono`: a clock that has not wrapped never runs backwards.
-/

namespace FailFast

/-- A point on the time line, in nanoseconds. -/
abbrev Instant := Nat

/-- A millisecond clock. -/
structure Clock where
  anchor : Instant
deriving DecidableEq, Inhabited

namespace Clock

/-- The milliseconds from the anchor to an instant. -/
def reading (c : Clock) (instant : Instant) : Nat := wrapWord ((instant - c.anchor) / 1000000)

@[simp]
theorem reading_anchor (c : Clock) : c.reading c.anchor = 0 := by
  simp [reading, wrapWord]

theorem reading_mono (c : Clock) {a b : Instant} (hab : a ≤ b)
    (hb : (b - c.anchor) / 1000000 < wordCount) : c.reading a ≤ c.reading b := by
  have hle : (a - c.anchor) / 1000000 ≤ (b - c.anchor) / 1000000 :=
    Nat.div_le_div_right (Nat.sub_le_sub_right hab _)
  simp only [reading]
  rw [wrapWord_of_lt hb, wrapWord_of_lt (Nat.lt_of_le_of_lt hle hb)]
  exact hle

/-- Milliseconds after the anchor are read as they pass, until the clock wraps. -/
theorem reading_add (c : Clock) {a : Instant} {ms : Nat} (ha : c.anchor ≤ a)
    (hlater : (a + (Duration.ofMillis ms).nanos - c.anchor) / 1000000 < wordCount) :
    c.reading (a + (Duration.ofMillis ms).nanos) = c.reading a + ms := by
  have hsplit : (a + (Duration.ofMillis ms).nanos - c.anchor) / 1000000 =
      (a - c.anchor) / 1000000 + ms := by
    rw [Nat.sub_add_comm ha, Duration.ofMillis, Nat.add_mul_div_right _ _ (by decide)]
  rw [hsplit] at hlater
  have hnow : (a - c.anchor) / 1000000 < wordCount :=
    Nat.lt_of_le_of_lt (Nat.le_add_right _ _) hlater
  rw [reading, reading, hsplit, wrapWord_of_lt hlater, wrapWord_of_lt hnow]

end Clock

end FailFast
