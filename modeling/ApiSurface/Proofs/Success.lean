/-!
# Steps that succeed

A computation made of steps that may fail succeeds exactly if its steps do, and what it returns is
made of what they return.
-/

namespace ApiSurface

variable {α β ε : Type}

/-- A sequence succeeds exactly if both its parts do. -/
theorem bind_eq_ok_iff {first : Except ε α} {next : α → Except ε β} {b : β} :
    first >>= next = .ok b ↔ ∃ a, first = .ok a ∧ next a = .ok b := by
  cases first <;> simp [bind, Except.bind]

/-- What is made of a result is made of one. -/
theorem map_eq_ok_iff {first : Except ε α} {f : α → β} {b : β} :
    first.map f = .ok b ↔ ∃ a, first = .ok a ∧ f a = b := by
  cases first <;> simp [Except.map]

end ApiSurface
