import Mathlib.Algebra.Order.Ring.Rat
import Mathlib.Logic.Function.Iterate
import Mathlib.Tactic.Linarith
import ApiSurface.Proofs.Backoff

/-!
# Many steps in a row

A step reads a delay off a backoff and moves the backoff on. The delay of a later step is thus
read off the backoff moved on that many times, with the draw that is then at the front of the
source. In exact arithmetic the interval of that step has a closed form: the first interval times
a power of the factor, whose exponent stops at the number of steps, and no more than the cap.
-/

namespace ApiSurface

variable {τ : Type}

/-- The source after a number of draws. -/
def Draws.skip (draws : Draws τ) (count : Nat) : Draws τ :=
  { draws with taken := draws.taken + count }

theorem Draws.advance_skip (draws : Draws τ) (count : Nat) :
    draws.advance.skip count = draws.skip (count + 1) := by
  rw [advance, skip, skip, Nat.add_right_comm, Nat.add_assoc]

namespace Backoff

section Steps

variable [Scalar τ]

/-- The delays of a number of steps in a row. -/
def delays : Nat → Backoff τ → Draws τ → List τ
  | 0, _, _ => []
  | count + 1, backoff, draws =>
    (backoff.delay draws).1 :: delays count backoff.next (backoff.delay draws).2

@[simp] theorem length_delays (count : Nat) (backoff : Backoff τ) (draws : Draws τ) :
    (delays count backoff draws).length = count := by
  induction count generalizing backoff draws with
  | zero => rfl
  | succ count ih => simp [delays, ih]

/-- A step changes neither the factor, nor the jitter, nor the cap. -/
theorem next_constant (backoff : Backoff τ) :
    backoff.next.factor = backoff.factor ∧ backoff.next.jitter = backoff.jitter ∧
      backoff.next.cap = backoff.cap := by
  unfold next grown
  dsimp only
  split
  · exact ⟨rfl, rfl, rfl⟩
  · split
    · exact ⟨rfl, rfl, rfl⟩
    · split <;> exact ⟨rfl, rfl, rfl⟩

@[simp] theorem jitter_iterate_next (backoff : Backoff τ) (count : Nat) :
    (next^[count] backoff).jitter = backoff.jitter := by
  induction count with
  | zero => rfl
  | succ count ih => rw [Function.iterate_succ_apply', (next_constant _).2.1, ih]

@[simp] theorem isJittered_iterate_next (backoff : Backoff τ) (count : Nat) :
    (next^[count] backoff).isJittered = backoff.isJittered := by
  simp only [isJittered, jitter_iterate_next]

/-- Of the source, a delay depends on the draw at its front, and only under jitter. -/
theorem delay_congr {backoff : Backoff τ} {draws draws' : Draws τ}
    (drawn : backoff.isJittered = true → draws.current = draws'.current) :
    (backoff.delay draws).1 = (backoff.delay draws').1 := by
  unfold delay jittered
  split
  next jitters => rw [drawn jitters]
  next => rfl

/-- A delay takes a draw under jitter, and none without. -/
theorem draws_delay (backoff : Backoff τ) (draws : Draws τ) :
    (backoff.delay draws).2 = if backoff.isJittered then draws.skip 1 else draws := by
  unfold delay jittered
  split <;> rfl

/-- A later delay is read off the backoff moved on that many times, with as many draws gone. -/
theorem getElem?_delays {count index : Nat} (below : index < count) (backoff : Backoff τ)
    (draws : Draws τ) :
    (delays count backoff draws)[index]? =
      some ((next^[index] backoff).delay (draws.skip index)).1 := by
  induction count generalizing index backoff draws with
  | zero => exact absurd below (Nat.not_lt_zero index)
  | succ count ih =>
    cases index with
    | zero => rfl
    | succ index =>
      rw [delays, List.getElem?_cons_succ, ih (Nat.lt_of_succ_lt_succ below),
        Function.iterate_succ_apply]
      refine congrArg some (delay_congr fun jitters => ?_)
      -- Only under jitter does the source matter, and then the first delay took a draw from it.
      have jittered : backoff.isJittered = true := by
        rwa [isJittered_iterate_next, isJittered, (next_constant backoff).2.1] at jitters
      rw [draws_delay, if_pos jittered]
      exact congrArg Draws.current (draws.advance_skip index)

end Steps

/-! ## Growth in exact arithmetic -/

section Growth

variable {backoff : Backoff Rat} {draws : Draws Rat}

/-- A backoff that starts at or below its cap and never shrinks. -/
structure Growing (backoff : Backoff Rat) : Prop where
  duration : 0 < backoff.duration
  factor : 1 ≤ backoff.factor
  jitter : 0 ≤ backoff.jitter
  steps : 0 ≤ backoff.steps
  cap : backoff.cap = 0 ∨ backoff.duration ≤ backoff.cap

/-- The interval of a step, counted from zero. -/
def interval (backoff : Backoff Rat) (index : Nat) : Rat :=
  let grown := backoff.duration * backoff.factor ^ min index backoff.steps.toNat
  if 0 < backoff.cap then min grown backoff.cap else grown

namespace Growing

/-- The first interval is the one a backoff starts from. -/
theorem interval_zero (growing : backoff.Growing) : backoff.interval 0 = backoff.duration := by
  simp only [interval, Nat.zero_min, pow_zero, mul_one]
  split
  next capped =>
    obtain none | below := growing.cap
    · exact absurd none capped.ne'
    · exact min_eq_left below
  next => rfl

/-- A step out of steps leaves the backoff as it is; any other grows the interval, or cuts it to
the cap for good. -/
theorem next_cases (growing : backoff.Growing) :
    (backoff.steps = 0 ∧ backoff.next = backoff) ∨
      (0 < backoff.steps ∧ 0 < backoff.cap ∧ backoff.cap < backoff.duration * backoff.factor ∧
        backoff.next = { backoff with duration := backoff.cap, steps := 0 }) ∨
      (0 < backoff.steps ∧
        (0 < backoff.cap → backoff.duration * backoff.factor ≤ backoff.cap) ∧
        backoff.next = { backoff with
          duration := backoff.duration * backoff.factor, steps := backoff.steps - 1 }) := by
  have zero : (0.0 : Rat) = 0 := by norm_num
  have grows : ¬ (backoff.factor == (0.0 : Rat)) = true := by
    have positive : 0 < backoff.factor := zero_lt_one.trans_le growing.factor
    simpa [zero] using positive.ne'
  have budget : 0 ≤ backoff.steps := growing.steps
  unfold next
  split
  next spent => exact .inl ⟨by omega, rfl⟩
  next going =>
    have left : 0 < backoff.steps := by omega
    rw [grown, if_neg grows, zero]
    dsimp only
    split
    next capped => exact .inr (.inl ⟨left, capped.1, capped.2, rfl⟩)
    next uncapped => exact .inr (.inr ⟨left, fun cap => le_of_not_gt fun exceeded =>
        uncapped ⟨cap, exceeded⟩, rfl⟩)

/-- Every step leaves a growing backoff. -/
theorem next (growing : backoff.Growing) : backoff.next.Growing := by
  obtain ⟨-, same⟩ | ⟨-, capped, -, cut⟩ | ⟨left, within, grown⟩ := growing.next_cases
  · rwa [same]
  · rw [cut]
    exact ⟨capped, growing.factor, growing.jitter, le_refl _, .inr (le_refl _)⟩
  · have product : 0 < backoff.duration * backoff.factor :=
      mul_pos growing.duration (zero_lt_one.trans_le growing.factor)
    rw [grown]
    refine ⟨product, growing.factor, growing.jitter, Int.le_sub_one_of_lt left, ?_⟩
    obtain none | below := growing.cap
    · exact .inl none
    · exact .inr (within (growing.duration.trans_le below))

/-- The intervals after a step are those before it from the second on. -/
theorem interval_next (growing : backoff.Growing) (index : Nat) :
    backoff.next.interval index = backoff.interval (index + 1) := by
  obtain ⟨spent, same⟩ | ⟨left, capped, exceeded, cut⟩ | ⟨left, -, grown⟩ := growing.next_cases
  · simp [same, interval, spent]
  · -- One growth is over the cap, so every later one is.
    have least : 1 ≤ min (index + 1) backoff.steps.toNat := by omega
    have above : backoff.cap ≤
        backoff.duration * backoff.factor ^ min (index + 1) backoff.steps.toNat := by
      calc backoff.cap ≤ backoff.duration * backoff.factor := exceeded.le
        _ ≤ backoff.duration * backoff.factor ^ min (index + 1) backoff.steps.toNat :=
          mul_le_mul_of_nonneg_left (le_self_pow₀ growing.factor (by omega)) growing.duration.le
    simp [cut, interval, capped, min_eq_right above]
  · have exponent : min (index + 1) backoff.steps.toNat
        = min index (backoff.steps - 1).toNat + 1 := by omega
    have product : backoff.duration * backoff.factor
          * backoff.factor ^ min index (backoff.steps - 1).toNat
        = backoff.duration * backoff.factor ^ min (index + 1) backoff.steps.toNat := by
      rw [exponent, pow_succ', mul_assoc]
    simp only [grown, interval, product]

/-- The interval of a step is the one the backoff has come to by then. -/
theorem duration_iterate_next (growing : backoff.Growing) (index : Nat) :
    (Backoff.next^[index] backoff).duration = backoff.interval index := by
  induction index generalizing backoff with
  | zero => exact growing.interval_zero.symm
  | succ index ih => rw [Function.iterate_succ_apply, ih growing.next, growing.interval_next]

theorem interval_pos (growing : backoff.Growing) (index : Nat) : 0 < backoff.interval index := by
  have grown : 0 < backoff.duration * backoff.factor ^ min index backoff.steps.toNat :=
    mul_pos growing.duration (pow_pos (zero_lt_one.trans_le growing.factor) _)
  unfold interval
  split
  next capped => exact lt_min grown capped
  next => exact grown

theorem monotone_interval (growing : backoff.Growing) : Monotone backoff.interval := by
  intro first second before
  have grown : backoff.duration * backoff.factor ^ min first backoff.steps.toNat
      ≤ backoff.duration * backoff.factor ^ min second backoff.steps.toNat :=
    mul_le_mul_of_nonneg_left
      (pow_le_pow_right₀ growing.factor (min_le_min_right _ before)) growing.duration.le
  unfold interval
  split
  · exact min_le_min_right _ grown
  · exact grown

end Growing

theorem interval_le_cap (capped : 0 < backoff.cap) (index : Nat) :
    backoff.interval index ≤ backoff.cap := by
  simp [interval, capped]

theorem interval_of_spent {index : Nat} (spent : backoff.steps.toNat ≤ index) :
    backoff.interval index = backoff.interval backoff.steps.toNat := by
  simp [interval, spent]

/-- What a delay is made of; without jitter, the draw counts for nothing. -/
theorem delay_eq (nonneg : 0 ≤ backoff.jitter) (draws : Draws Rat) :
    (backoff.delay draws).1 =
      backoff.duration + draws.current * backoff.jitter * backoff.duration := by
  have zero : (0.0 : Rat) = 0 := by norm_num
  unfold delay jittered
  split
  · rfl
  next calm =>
    have none : backoff.jitter = 0 := by
      have bounded : backoff.jitter ≤ 0 := by simpa [isJittered, zero] using calm
      exact le_antisymm bounded nonneg
    simp [none]

/-- Each delay of a growing backoff is the interval of its step with its own draw's share of the
jitter added. -/
theorem Growing.delays_eq (growing : backoff.Growing) (draws : Draws Rat) (count : Nat) :
    delays count backoff draws = (List.range count).map (fun index =>
      backoff.interval index
        + draws.roll (draws.taken + index) * backoff.jitter * backoff.interval index) := by
  refine List.ext_getElem? fun index => ?_
  by_cases below : index < count
  · have nonneg : 0 ≤ (Backoff.next^[index] backoff).jitter := by
      rw [jitter_iterate_next]
      exact growing.jitter
    rw [getElem?_delays below, delay_eq nonneg, jitter_iterate_next, growing.duration_iterate_next]
    simp [below, Draws.skip, Draws.current]
  · rw [List.getElem?_eq_none (by simpa using below), List.getElem?_eq_none (by simpa using below)]

/-- A share of the jitter adds something to an interval, and no more than the whole jitter does. -/
theorem Growing.share_within (growing : backoff.Growing) {roll : Rat} (nonneg : 0 ≤ roll)
    (below : roll ≤ 1) (index : Nat) :
    backoff.interval index
        ≤ backoff.interval index + roll * backoff.jitter * backoff.interval index ∧
      backoff.interval index + roll * backoff.jitter * backoff.interval index
        ≤ backoff.interval index * (1 + backoff.jitter) := by
  have whole : 0 ≤ backoff.jitter * backoff.interval index :=
    mul_nonneg growing.jitter (growing.interval_pos index).le
  have part : roll * (backoff.jitter * backoff.interval index)
      ≤ backoff.jitter * backoff.interval index := mul_le_of_le_one_left whole below
  rw [mul_assoc]
  constructor
  · exact le_add_of_nonneg_right (mul_nonneg nonneg whole)
  · linarith

/-- The delays of a growing backoff, in closed form: the interval of each step, with its own
draw's share of the jitter added. The intervals never decrease, never exceed a cap and stay the
same once the steps are used up; and no delay is less than its interval or adds more to it than
the whole jitter. -/
theorem delays_closed_form (growing : backoff.Growing) (fair : draws.Fair) (count : Nat) :
    delays count backoff draws = (List.range count).map (fun index =>
        backoff.interval index
          + draws.roll (draws.taken + index) * backoff.jitter * backoff.interval index) ∧
      Monotone backoff.interval ∧
      (0 < backoff.cap → ∀ index, backoff.interval index ≤ backoff.cap) ∧
      (∀ index, backoff.steps.toNat ≤ index →
        backoff.interval index = backoff.interval backoff.steps.toNat) ∧
      ∀ index delay, (delays count backoff draws)[index]? = some delay →
        backoff.interval index ≤ delay ∧
          delay ≤ backoff.interval index * (1 + backoff.jitter) := by
  have closed := growing.delays_eq draws count
  refine ⟨closed, growing.monotone_interval, fun capped => interval_le_cap capped,
    fun index => interval_of_spent, fun index delay read => ?_⟩
  have below : index < count := by
    obtain ⟨inside, -⟩ := List.getElem?_eq_some_iff.mp read
    simpa using inside
  obtain rfl : backoff.interval index
      + draws.roll (draws.taken + index) * backoff.jitter * backoff.interval index = delay := by
    simpa [closed, below] using read
  have drawn := fair (draws.taken + index)
  exact growing.share_within drawn.1 drawn.2.le index

/-- A backoff of one second that doubles up to a cap of five. -/
def doubling : Backoff Rat := { duration := 1, factor := 2, jitter := 1 / 2, steps := 10, cap := 5 }

theorem delays_closed_form_doubling :
    delays 5 doubling { roll := fun _ => 1 / 4, taken := 0 } =
        [1 + 1 / 8, 2 + 1 / 4, 4 + 1 / 2, 5 + 5 / 8, 5 + 5 / 8] ∧
      Monotone doubling.interval ∧ ∀ index, doubling.interval index ≤ 5 := by
  have growing : doubling.Growing := by
    constructor <;> decide +kernel
  have fair : Draws.Fair { roll := fun _ => 1 / 4, taken := 0 } := fun _ =>
    have bounds : (0 : Rat) ≤ 1 / 4 ∧ (1 / 4 : Rat) < 1 := by decide +kernel
    bounds
  obtain ⟨closed, monotone, bounded, -⟩ := delays_closed_form growing fair 5
  exact ⟨closed.trans (by decide +kernel), monotone, bounded (by decide +kernel)⟩

end Growth

end Backoff

end ApiSurface
