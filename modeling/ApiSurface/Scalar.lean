import ApiSurface.Decimal.Double

/-!
# Amounts of time

Clocks, delays and deadlines are amounts of time. The library computes with them
through this one class, so that the same definitions run in floating point and
are reasoned about in exact rational arithmetic.
-/

namespace ApiSurface

/-- Numbers that can serve as amounts of time. -/
class Scalar (τ : Type) extends Add τ, Sub τ, Mul τ, LT τ, LE τ, BEq τ, OfScientific τ where
  decidableLT : DecidableLT τ
  decidableLE : DecidableLE τ
  ofInt : Int → τ
  /-- Whether a number is less than an integer, without rounding either. -/
  isBelow : Int → τ → Bool
  text : τ → String

instance Scalar.instDecidableLT {τ : Type} [Scalar τ] (x y : τ) : Decidable (x < y) := Scalar.decidableLT x y

instance Scalar.instDecidableLE {τ : Type} [Scalar τ] (x y : τ) : Decidable (x ≤ y) := Scalar.decidableLE x y

instance : Scalar Float where
  decidableLT := inferInstance
  decidableLE := inferInstance
  ofInt := Float.ofInt
  isBelow n x := (Decimal.Double.ofFloat x).isBelow n
  text x := (Decimal.Double.ofFloat x).text

instance : Scalar Rat where
  decidableLT := inferInstance
  decidableLE := inferInstance
  ofInt n := (n : Rat)
  isBelow n x := decide (x < (n : Rat))
  text x := if x.den = 1 then toString x.num else toString x.num ++ "/" ++ toString x.den

namespace Scalar

variable {τ : Type} [Scalar τ]

/-- The second number if it is greater, else the first. -/
def larger (x y : τ) : τ := if x < y then y else x

/-- The second number if it is less, else the first. -/
def smaller (x y : τ) : τ := if y < x then y else x

end Scalar

/-- A configured number of seconds, as it was written: whole or with a fraction. -/
inductive Seconds (τ : Type) where
  | whole (count : Int)
  | fractional (amount : τ)
deriving Repr

namespace Seconds

variable {τ : Type} [Scalar τ]

/-- The amount of time. -/
def amount : Seconds τ → τ
  | whole count => Scalar.ofInt count
  | fractional amount => amount

/-- Whether the number is negative. -/
def isNegative : Seconds τ → Bool
  | whole count => decide (count < 0)
  | fractional amount => decide (amount < 0.0)

/-- Whether the number is greater than an amount of time. -/
def exceeds : Seconds τ → τ → Bool
  | whole count, time => Scalar.isBelow count time
  | fractional amount, time => decide (time < amount)

/-- The number as it is shown in messages. -/
def text : Seconds τ → String
  | whole count => toString count
  | fractional amount => Scalar.text amount

end Seconds

end ApiSurface
