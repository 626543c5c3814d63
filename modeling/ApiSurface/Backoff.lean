import ApiSurface.Scalar

/-!
# Exponential backoff

A backoff hands out the delay before the next attempt: an interval that grows by a
factor until its steps are used up or it reaches its cap, and then stays. Jitter
adds a random share of the interval to the delay, never to the interval itself, so
the intervals are the same for every sequence of draws.
-/

namespace ApiSurface

variable {τ : Type}

/-- A source of random numbers from zero up to, but not including, one. -/
structure Draws (τ : Type) where
  roll : Nat → τ
  taken : Nat

namespace Draws

/-- The next draw. -/
def current (draws : Draws τ) : τ := draws.roll draws.taken

/-- The source after one draw. -/
def advance (draws : Draws τ) : Draws τ := { draws with taken := draws.taken + 1 }

end Draws

/-- The state of an exponential backoff. A cap of zero means none. -/
structure Backoff (τ : Type) where
  duration : τ
  factor : τ
  jitter : τ
  steps : Int
  cap : τ
deriving Repr

namespace Backoff

variable [Scalar τ]

/-- The backoff of a watch that reconnects forever: from a quarter of a second, half as
much again each time, for twenty steps. -/
def reconnecting : Backoff τ :=
  { duration := 0.25, factor := 1.5, jitter := 0.1, steps := 20, cap := 0.0 }

/-- The backoff between two looks at a definition: from half a second to at most ten. -/
def polling : Backoff τ :=
  { duration := 0.5, factor := 1.5, jitter := 0.1, steps := 30, cap := 10.0 }

/-- Whether a delay is an interval with a random share of it added. -/
def isJittered (backoff : Backoff τ) : Bool := !decide (backoff.jitter ≤ 0.0)

/-- The delay made of an interval, and the source of random numbers after it. -/
def jittered (backoff : Backoff τ) (interval : τ) (draws : Draws τ) : τ × Draws τ :=
  if backoff.isJittered then
    (interval + draws.current * backoff.jitter * interval, draws.advance)
  else (interval, draws)

/-- The backoff after one step that is not its last: the interval grown, or the cap with
no steps left. -/
def grown (backoff : Backoff τ) : Backoff τ :=
  if backoff.factor == 0.0 then { backoff with steps := backoff.steps - 1 }
  else
    let duration := backoff.duration * backoff.factor
    if 0.0 < backoff.cap ∧ backoff.cap < duration then
      { backoff with duration := backoff.cap, steps := 0 }
    else { backoff with duration, steps := backoff.steps - 1 }

/-- The backoff after one step. -/
def next (backoff : Backoff τ) : Backoff τ :=
  if backoff.steps < 1 then backoff else backoff.grown

/-- The delay of one step, and the source of random numbers after it. -/
def delay (backoff : Backoff τ) (draws : Draws τ) : τ × Draws τ :=
  backoff.jittered backoff.duration draws

end Backoff

end ApiSurface
