import ApiSurface.Fault
import ApiSurface.Scalar

/-!
# Rate limiting

A limiter lets a call through if none was let through before or the last one was
let through at least an interval ago. What counts is when a call is let through,
not when it is done, and a call that is dropped leaves no trace.
-/

namespace ApiSurface

variable {τ : Type}

/-- A limiter: its interval, and the clock reading of the last call let through. -/
structure Limiter (τ : Type) where
  interval : Seconds τ
  last : Option τ
deriving Repr

namespace Limiter

variable [Scalar τ]

/-- A limiter that has let nothing through yet. -/
def create (interval : Seconds τ) : Except Fault (Limiter τ) :=
  if interval.isNegative then .error .negativeInterval else .ok { interval, last := none }

/-- Whether a call at this clock reading is let through. -/
def admits (limiter : Limiter τ) (now : τ) : Bool :=
  match limiter.last with
  | none => true
  | some last => !limiter.interval.exceeds (now - last)

/-- The limiter after a call was let through. -/
def admitted (limiter : Limiter τ) (now : τ) : Limiter τ := { limiter with last := some now }

end Limiter

end ApiSurface
