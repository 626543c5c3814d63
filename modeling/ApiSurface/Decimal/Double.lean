import ApiSurface.Decimal.Shortest

/-!
# Double-precision numbers as exact values and as text

A double is taken apart into sign, mantissa and exponent. What other modules ask
of it (its text, its whole part, whether it equals an integer) is answered from
those three, in exact arithmetic.
-/

namespace ApiSurface.Decimal

/-- What a double is. -/
inductive Double where
  | notANumber
  | infinite (negative : Bool)
  | finite (negative : Bool) (mantissa : Nat) (exponent : Int)
deriving DecidableEq, Repr

namespace Double

/-- The value that 64 bits stand for. -/
def ofBits (bits : UInt64) : Double :=
  let negative := bits >>> 63 == 1
  let biased := ((bits >>> 52) &&& 0x7FF).toNat
  let fraction := (bits &&& 0xFFFFFFFFFFFFF).toNat
  if biased = 0x7FF then (if fraction = 0 then infinite negative else notANumber)
  else if biased = 0 then finite negative fraction (-1074)
  else finite negative (Nat.pow 2 52 + fraction) ((biased : Int) - 1075)

/-- The value of a floating-point number. -/
def ofFloat (x : Float) : Double := ofBits x.toBits

/-- Whether the number is neither zero nor of either sign by absence: zero alone is. -/
def isZero : Double → Bool
  | finite _ mantissa _ => mantissa == 0
  | _ => false

/-- The whole part of a finite number, nearer to zero. -/
def truncate? : Double → Option Int
  | finite negative mantissa exponent =>
    let magnitude : Nat := mantissa * Nat.pow 2 exponent.toNat / Nat.pow 2 (-exponent).toNat
    some (if negative then -(magnitude : Int) else magnitude)
  | _ => none

/-- The greatest integer that is not greater than a finite number. -/
def floor? : Double → Option Int
  | finite negative mantissa exponent =>
    let scaled : Int := mantissa * Nat.pow 2 exponent.toNat
    some (Int.fdiv (if negative then -scaled else scaled) (Nat.pow 2 (-exponent).toNat))
  | _ => none

/-- Whether the number is less than this integer. -/
def isBelow (n : Int) : Double → Bool
  | finite negative mantissa exponent =>
    let scaled : Int := mantissa * Nat.pow 2 exponent.toNat
    decide ((if negative then -scaled else scaled) < n * Nat.pow 2 (-exponent).toNat)
  | infinite negative => negative
  | notANumber => false

/-- Whether the number is exactly this integer. -/
def isInteger (n : Int) : Double → Bool
  | finite negative mantissa exponent =>
    let scaled : Int := mantissa * Nat.pow 2 exponent.toNat
    (if negative then -scaled else scaled) == n * Nat.pow 2 (-exponent).toNat
  | _ => false

/-- Whether two numbers are equal, or neither is a number; a zero has no sign here. -/
def same : Double → Double → Bool
  | notANumber, notANumber => true
  | infinite negative, infinite otherNegative => negative == otherNegative
  | finite negative mantissa exponent, finite otherNegative otherMantissa otherExponent =>
    let scaled : Int := mantissa * Nat.pow 2 exponent.toNat
    let otherScaled : Int := otherMantissa * Nat.pow 2 otherExponent.toNat
    (if negative then -scaled else scaled) * Nat.pow 2 (-otherExponent).toNat ==
      (if otherNegative then -otherScaled else otherScaled) * Nat.pow 2 (-exponent).toNat
  | _, _ => false

/-- Numbers are written positionally from four zeros after the point up to sixteen
digits before it. -/
def format : Format := { leastPoint := -3, greatestPoint := 16 }

/-- The text of a number: the shortest decimal that reads back as it. -/
def text : Double → String
  | notANumber => "nan"
  | infinite negative => if negative then "-inf" else "inf"
  | finite negative mantissa exponent =>
    let magnitude :=
      if mantissa = 0 then ['0', '.', '0']
      else
        let point : BinaryPoint :=
          { mantissa, exponent, narrowBelow := mantissa == Nat.pow 2 52 && exponent != -1074 }
        (point.shortest 17).write format
    String.ofList (if negative then '-' :: magnitude else magnitude)

end Double

end ApiSurface.Decimal
