import ApiSurface.Decimal.Double

/-!
# Numbers with a given number of digits

A number is rounded to a number of places after the point, or to a number of
significant digits, by exact arithmetic: to the nearest such decimal, and of two
equally near ones to the even one. A double is a decimal of limited length, so the
digits wanted beyond that length are zeros.
-/

namespace ApiSurface.Decimal

/-- A quotient rounded to the nearest whole number, a half to the even one. -/
def roundDiv (numerator denominator : Nat) : Nat :=
  let whole := numerator / denominator
  let rest := 2 * (numerator % denominator)
  if rest < denominator || (rest == denominator && whole % 2 == 0) then whole else whole + 1

/-- A non-negative number as a fraction: `mantissa · 2^exponent`. -/
def fraction (mantissa : Nat) (exponent : Int) : Nat × Nat :=
  (mantissa * Nat.pow 2 exponent.toNat, Nat.pow 2 (-exponent).toNat)

/-- The digits of a whole number, with zeros in front up to a width. -/
def paddedDigits (width n : Nat) : List Char :=
  let digits := Nat.toDigits 10 n
  List.replicate (width - digits.length) '0' ++ digits

/-- A point and the digits behind it; if there are none, the point is left out unless it
is to be kept. -/
def fractionPart (keepPoint : Bool) (digits : List Char) : List Char :=
  if digits.isEmpty && !keepPoint then [] else '.' :: digits

/-- No double has more places after the point, nor more significant digits, than this. -/
def mostDigits : Nat := 1100

/-- A fraction with a number of places after the point. -/
def withPlaces (keepPoint : Bool) (places numerator denominator : Nat) : List Char :=
  let exact := min places mostDigits
  let digits := paddedDigits (exact + 1) (roundDiv (numerator * Nat.pow 10 exact) denominator)
  let whole := digits.length - exact
  digits.take whole ++
    fractionPart keepPoint (digits.drop whole ++ List.replicate (places - exact) '0')

/-- A fraction as a number of significant digits and the exponent of the first. -/
def significantDigits (count numerator denominator : Nat) : List Char × Int :=
  if numerator = 0 then (List.replicate count '0', 0)
  else
    let exact := min count mostDigits
    let point := BinaryPoint.pointOf 400 numerator denominator
    let unit := point - exact
    let rounded :=
      roundDiv (numerator * Nat.pow 10 (-unit).toNat) (denominator * Nat.pow 10 unit.toNat)
    let digits := Nat.toDigits 10 rounded
    (digits.take exact ++ List.replicate (count - exact) '0',
      point - 1 + (digits.length - exact : Nat))

/-- A fraction with one digit before the point, some after it, and an exponent. -/
def withExponent (keepPoint : Bool) (places numerator denominator : Nat) : List Char :=
  let (digits, e) := significantDigits (places + 1) numerator denominator
  digits.take 1 ++ fractionPart keepPoint (digits.drop 1) ++ 'e' :: exponentChars e

/-- Digits without the zeros at their end. -/
def withoutTrailingZeros (digits : List Char) : List Char :=
  (digits.reverse.dropWhile (· = '0')).reverse

/-- A fraction in a number of significant digits, without an exponent where it fits. The
zeros at its end are left out unless the point is to be kept. -/
def general (keepPoint : Bool) (count numerator denominator : Nat) : List Char :=
  let (digits, e) :=
    significantDigits (if keepPoint then count else min count mostDigits) numerator denominator
  let fractionOf (digits : List Char) : List Char :=
    fractionPart keepPoint (if keepPoint then digits else withoutTrailingZeros digits)
  if e < -4 || (count : Int) ≤ e then
    digits.take 1 ++ fractionOf (digits.drop 1) ++ 'e' :: exponentChars e
  else if e < 0 then '0' :: fractionOf (List.replicate (-e - 1).toNat '0' ++ digits)
  else
    let whole := e.toNat + 1
    digits.take whole ++ fractionOf (digits.drop whole)

end ApiSurface.Decimal
