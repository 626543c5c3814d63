import Mathlib.Algebra.Order.Ring.Rat
import Mathlib.Tactic.NormNum
import ApiSurface.Backoff

/-!
# Delays are positive

In exact arithmetic a backoff that begins with a positive interval and grows by a positive factor
keeps a positive interval, whether it grows, saturates or is cut to its cap; and jitter only ever
adds to an interval. So no delay it hands out is zero or less.
-/

namespace ApiSurface

/-- Draws that are what they are meant to be: from zero up to, but not including, one. -/
def Draws.Fair (draws : Draws Rat) : Prop := ∀ n, 0 ≤ draws.roll n ∧ draws.roll n < 1

namespace Backoff

variable {backoff : Backoff Rat} {draws : Draws Rat}

/-- A delay takes from its source no more than a draw. -/
theorem roll_delay (backoff : Backoff Rat) (draws : Draws Rat) :
    (backoff.delay draws).2.roll = draws.roll := by
  rw [delay, jittered]
  split <;> rfl

/-- Jitter adds to the interval, or leaves it. -/
theorem duration_le_delay (fair : draws.Fair) (nonneg : 0 ≤ backoff.duration) :
    backoff.duration ≤ (backoff.delay draws).1 := by
  rw [delay, jittered]
  split
  next jittered =>
    have zero : (0.0 : Rat) = 0 := by norm_num
    have share : 0 ≤ backoff.jitter := by
      have above : ¬ backoff.jitter ≤ (0.0 : Rat) := by simpa [isJittered] using jittered
      rw [zero] at above
      exact le_of_not_ge above
    have drawn : 0 ≤ draws.current := (fair draws.taken).1
    exact le_add_of_nonneg_right (mul_nonneg (mul_nonneg drawn share) nonneg)
  next => exact le_refl _

/-- A backoff with a positive interval and a positive factor. -/
structure Positive (backoff : Backoff Rat) : Prop where
  duration : 0 < backoff.duration
  factor : 0 < backoff.factor

namespace Positive

/-- Every step leaves a positive interval. -/
theorem next (positive : backoff.Positive) : backoff.next.Positive := by
  have zero : (0.0 : Rat) = 0 := by norm_num
  rw [Backoff.next, grown]
  split
  · exact positive
  · split
    · exact ⟨positive.duration, positive.factor⟩
    · dsimp only
      split
      next capped => exact ⟨zero ▸ capped.1, positive.factor⟩
      next => exact ⟨mul_pos positive.duration positive.factor, positive.factor⟩

/-- A delay takes some time. -/
theorem delay_pos (positive : backoff.Positive) (fair : draws.Fair) :
    0 < (backoff.delay draws).1 :=
  positive.duration.trans_le (duration_le_delay fair positive.duration.le)

end Positive

/-- The backoff between two looks at a definition has positive delays. -/
theorem polling_positive : (polling : Backoff Rat).Positive := by
  constructor
  · change (0 : Rat) < 0.5
    norm_num
  · change (0 : Rat) < 1.5
    norm_num

end Backoff

end ApiSurface
