import ApiSurface.Text.Blank

/-!
# Decimal digits and integer text

Every script's decimal digits count, ten consecutive code points from its zero.
Integer text is a sign or none, then digits, between any two of which one
underscore may stand; blanks may surround it, the four information separators
excepted. Text with more digits than `maxDigits` is no integer.
-/

namespace ApiSurface.Text

/-- The zero of every script that has decimal digits. -/
def zeros : List Nat :=
  [0x30, 0x660, 0x6f0, 0x7c0, 0x966, 0x9e6, 0xa66, 0xae6, 0xb66, 0xbe6, 0xc66, 0xce6, 0xd66,
   0xde6, 0xe50, 0xed0, 0xf20, 0x1040, 0x1090, 0x17e0, 0x1810, 0x1946, 0x19d0, 0x1a80, 0x1a90,
   0x1b50, 0x1bb0, 0x1c40, 0x1c50, 0xa620, 0xa8d0, 0xa900, 0xa9d0, 0xa9f0, 0xaa50, 0xabf0,
   0xff10, 0x104a0, 0x10d30, 0x11066, 0x110f0, 0x11136, 0x111d0, 0x112f0, 0x11450, 0x114d0,
   0x11650, 0x116c0, 0x11730, 0x118e0, 0x11950, 0x11c50, 0x11d50, 0x11da0, 0x16a60, 0x16ac0,
   0x16b50, 0x1d7ce, 0x1d7d8, 0x1d7e2, 0x1d7ec, 0x1d7f6, 0x1e140, 0x1e2f0, 0x1e950, 0x1fbf0]

/-- The value of a decimal digit of any script. -/
def digitValue (c : Char) : Option Nat :=
  (zeros.find? fun least => least ≤ c.toNat && c.toNat ≤ least + 9).map fun least => c.toNat - least

/-- The value of a code point that is a decimal digit. -/
def pointDigit : CodePoint → Option Nat
  | .char c => digitValue c
  | .half _ => none

/-- The longest integer text that is read, counted in digits. -/
def maxDigits : Nat := 4300

/-- Blanks that may surround an integer: all but the information separators. -/
def isIntegerBlank (c : Char) : Bool :=
  isBlank c && !(CharRanges.has [(0x1C, 0x1F)] c)

/-- The digits of a text of one or more digits with single underscores between them. -/
def readDigits : Text → Option (List Nat)
  | [] => none
  | [point] => (pointDigit point).map fun digit => [digit]
  | point :: .char '_' :: rest =>
    match pointDigit point, readDigits rest with
    | some digit, some digits => some (digit :: digits)
    | _, _ => none
  | point :: next :: rest =>
    match pointDigit point, readDigits (next :: rest) with
    | some digit, some digits => some (digit :: digits)
    | _, _ => none

/-- The number that decimal digits denote, most significant digit first. -/
def ofDigits (digits : List Nat) : Nat :=
  digits.foldl (fun value digit => 10 * value + digit) 0

/-- The natural number that unsigned digits denote, if they are not too many. -/
def readNat (text : Text) : Option Nat :=
  match readDigits text with
  | some digits => if digits.length ≤ maxDigits then some (ofDigits digits) else none
  | none => none

/-- The integer that a text denotes. -/
def readInteger (text : Text) : Option Int :=
  let isOuter := CodePoint.any isIntegerBlank
  match ((text.dropWhile isOuter).reverse.dropWhile isOuter).reverse with
  | .char '-' :: digits => (readNat digits).map fun n => -(n : Int)
  | .char '+' :: digits => (readNat digits).map fun n => (n : Int)
  | digits => (readNat digits).map fun n => (n : Int)

end ApiSurface.Text
