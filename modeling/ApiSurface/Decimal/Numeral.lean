/-!
# Decimal numerals

A numeral is an optional minus sign, digits, an optional fraction and an optional
power of ten. Without fraction and power it stands for an integer, of any size;
with either it stands for the double nearest to it.
-/

namespace ApiSurface.Decimal

/-- The parts of a numeral. -/
structure Numeral where
  negative : Bool
  whole : List Char
  fraction : Option (List Char)
  power : Option Int
deriving DecidableEq, Repr

/-- The number that decimal digits stand for. -/
def natOfDigits (digits : List Char) : Nat :=
  digits.foldl (fun n digit => 10 * n + (digit.toNat - '0'.toNat)) 0

/-- The double made of a mantissa, the number of its digits and a power of ten. What is
out of range by far is not computed. -/
def scaled (mantissa digits : Nat) (power : Int) : Float :=
  if mantissa = 0 ∨ power + digits < -400 then 0.0
  else if 400 < power + digits then 1.0 / 0.0
  else Float.ofScientific mantissa (decide (power < 0)) power.natAbs

namespace Numeral

/-- Whether a numeral stands for an integer. -/
def isInteger (numeral : Numeral) : Bool := numeral.fraction.isNone && numeral.power.isNone

/-- The integer made of a numeral's digits before the fraction. -/
def toInt (numeral : Numeral) : Int :=
  if numeral.negative then -(natOfDigits numeral.whole : Int) else natOfDigits numeral.whole

/-- The double nearest to a numeral. -/
def toFloat (numeral : Numeral) : Float :=
  let fraction := numeral.fraction.getD []
  let digits := (numeral.whole ++ fraction).dropWhile (· == '0')
  let amount := scaled (natOfDigits digits) digits.length (numeral.power.getD 0 - fraction.length)
  if numeral.negative then -amount else amount

end Numeral

/-- Reads one or more digits. -/
def readDigits (cs : List Char) : Option (List Char × List Char) :=
  let digits := cs.takeWhile Char.isDigit
  if digits.isEmpty then none else some (digits, cs.dropWhile Char.isDigit)

/-- Reads a fraction, if one follows. -/
def readFraction : List Char → Option (Option (List Char) × List Char)
  | '.' :: cs => (readDigits cs).map fun (digits, rest) => (some digits, rest)
  | cs => some (none, cs)

/-- Reads the digits of a power with its sign. -/
def readSigned : List Char → Option (Int × List Char)
  | '-' :: cs => (readDigits cs).map fun (digits, rest) => (-(natOfDigits digits : Int), rest)
  | '+' :: cs => (readDigits cs).map fun (digits, rest) => (natOfDigits digits, rest)
  | cs => (readDigits cs).map fun (digits, rest) => (natOfDigits digits, rest)

/-- Reads a power of ten, if one follows. -/
def readPower : List Char → Option (Option Int × List Char)
  | 'e' :: cs => (readSigned cs).map fun (power, rest) => (some power, rest)
  | 'E' :: cs => (readSigned cs).map fun (power, rest) => (some power, rest)
  | cs => some (none, cs)

/-- Reads a numeral and returns what follows it. -/
def readNumeral (cs : List Char) : Option (Numeral × List Char) := do
  let negative := cs.head? == some '-'
  let (whole, rest) ← readDigits (if negative then cs.tail else cs)
  let (fraction, rest) ← readFraction rest
  let (power, rest) ← readPower rest
  some ({ negative, whole, fraction, power }, rest)

end ApiSurface.Decimal
