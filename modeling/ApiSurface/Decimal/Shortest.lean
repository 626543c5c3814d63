/-!
# The shortest decimal that reads back

A positive number `m · 2^q` of a binary format stands for an interval of reals:
those nearer to it than to its neighbours, the ends included if `m` is even. The
shortest decimal is the one with the fewest digits inside that interval, and of
those the nearest to the number. It is found by asking, for one digit, two, and
so on, whether one of the two neighbours of the number on that decimal grid lies
inside. All arithmetic is exact.
-/

namespace ApiSurface.Decimal

/-- A positive real in a binary format: `mantissa · 2^exponent`, with the width of
the interval below it halved where the format's spacing changes. -/
structure BinaryPoint where
  mantissa : Nat
  exponent : Int
  narrowBelow : Bool
deriving DecidableEq, Repr

/-- A decimal `0.d₁d₂… · 10^point`: its digits, the first one not zero, and the
number of digits in front of the decimal point. -/
structure Digits where
  digits : List Nat
  point : Int
deriving DecidableEq, Repr

namespace BinaryPoint

/-- The number as a fraction over four, so that the ends of its interval are whole:
`(low, value, high)` over a common denominator. -/
def quarters (x : BinaryPoint) : Nat × Nat × Nat × Nat :=
  let scale : Nat := Nat.pow 2 x.exponent.toNat
  let denominator : Nat := 4 * Nat.pow 2 (-x.exponent).toNat
  ((4 * x.mantissa - if x.narrowBelow then 1 else 2) * scale, 4 * x.mantissa * scale,
    (4 * x.mantissa + 2) * scale, denominator)

/-- The number of digits in front of the decimal point of `numerator / denominator`,
negative if zeros follow the point, looked for within `fuel` steps. -/
def pointOf (fuel numerator denominator : Nat) : Int :=
  if denominator ≤ numerator then (Nat.toDigits 10 (numerator / denominator)).length
  else
    match fuel with
    | 0 => 0
    | fuel + 1 =>
      if denominator ≤ numerator * 10 then 0 else pointOf fuel (numerator * 10) denominator - 1

/-- The two neighbours of `numerator / denominator` on the grid of multiples of
`10^unit`, as multiples. -/
def neighbours (numerator denominator : Nat) (unit : Int) : Nat × Nat :=
  let multiple := numerator * Nat.pow 10 (-unit).toNat / (denominator * Nat.pow 10 unit.toNat)
  (multiple, multiple + 1)

/-- The multiple of `10^unit` that stands for the number on that grid, if one of the
two neighbours lies in its interval: the nearer one, and of two equally near the
even one. -/
def onGrid? (x : BinaryPoint) (unit : Int) : Option Nat :=
  let (low, value, high, denominator) := x.quarters
  let up := Nat.pow 10 (-unit).toNat
  let down := Nat.pow 10 unit.toNat
  let (lesser, greater) := neighbours value denominator unit
  let closed := x.mantissa % 2 == 0
  let grid (multiple : Nat) := multiple * denominator * down
  let lesserInside := if closed then low * up ≤ grid lesser else low * up < grid lesser
  let greaterInside := if closed then grid greater ≤ high * up else grid greater < high * up
  let below := value * up - grid lesser
  let above := grid greater - value * up
  let preferLesser := below < above || (below == above && lesser % 2 == 0)
  match decide (lesserInside ∧ 0 < lesser), decide greaterInside with
  | true, true => some (if preferLesser then lesser else greater)
  | true, false => some lesser
  | false, true => some greater
  | false, false => none

/-- The first grid from `count` digits on that holds a decimal of the interval. -/
def search (x : BinaryPoint) (point : Int) : Nat → Nat → Option (Nat × Int)
  | 0, _ => none
  | fuel + 1, count =>
    match x.onGrid? (point - count) with
    | some multiple => some (multiple, point - count)
    | none => search x point fuel (count + 1)

/-- Digits of a number without the zeros at its end, and how many there were. -/
def significant (n : Nat) : List Nat :=
  (((Nat.toDigits 10 n).reverse.dropWhile (· = '0')).reverse).map fun c => c.toNat - '0'.toNat

/-- The shortest decimal that reads back as the number, of at most `most` digits. -/
def shortest (x : BinaryPoint) (most : Nat) : Digits :=
  let (_, value, _, denominator) := x.quarters
  match x.search (pointOf 400 value denominator) most 1 with
  | some (multiple, unit) =>
    { digits := significant multiple, point := (Nat.toDigits 10 multiple).length + unit }
  | none => { digits := [0], point := 1 }

end BinaryPoint

/-- How decimals are written: the greatest and the least number of digits before the
point that is still written without an exponent. -/
structure Format where
  leastPoint : Int
  greatestPoint : Int
deriving DecidableEq, Repr

/-- Digits as characters. -/
def digitChars (digits : List Nat) : List Char := digits.map fun d => Char.ofNat ('0'.toNat + d)

/-- An exponent with its sign and at least two digits. -/
def exponentChars (e : Int) : List Char :=
  let digits := Nat.toDigits 10 e.natAbs
  (if e < 0 then '-' else '+') :: (List.replicate (2 - digits.length) '0' ++ digits)

/-- A decimal as text: with a point and at least one digit on either side of it, or,
outside the positional range, with one digit before the point and an exponent. -/
def Digits.write (x : Digits) (format : Format) : List Char :=
  let digits := digitChars x.digits
  if x.point < format.leastPoint || format.greatestPoint < x.point then
    let fraction := digits.drop 1
    digits.take 1 ++ (if fraction.isEmpty then [] else '.' :: fraction) ++
      'e' :: exponentChars (x.point - 1)
  else if x.point ≤ 0 then '0' :: '.' :: (List.replicate (-x.point).toNat '0' ++ digits)
  else
    let whole := x.point.toNat
    let fraction := digits.drop whole
    digits.take whole ++ List.replicate (whole - digits.length) '0' ++
      '.' :: (if fraction.isEmpty then ['0'] else fraction)

end ApiSurface.Decimal
