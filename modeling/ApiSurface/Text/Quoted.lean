import ApiSurface.Text.Basic
import ApiSurface.Text.Printable

/-!
# Quoted text

Quoted text stands between single quotes, or between double quotes if it holds a
single quote and no double one. The backslash, the chosen quote, line feed,
carriage return and tab are escaped by name, every other code point that is no
printable character by its number in the shortest of three fixed widths.
-/

namespace ApiSurface.Text

/-- A number in lower-case hexadecimal digits, padded with zeros to a width. -/
def hex (width n : Nat) : List Char :=
  let digits := Nat.toDigits 16 n
  List.replicate (width - digits.length) '0' ++ digits

/-- A code point escaped by its number. -/
def numberEscape (n : Nat) : List Char :=
  if n < 0x100 then '\\' :: 'x' :: hex 2 n
  else if n < 0x10000 then '\\' :: 'u' :: hex 4 n
  else '\\' :: 'U' :: hex 8 n

/-- One character of quoted text. -/
def quotedChar (quote c : Char) : List Char :=
  if c = quote || c = '\\' then ['\\', c]
  else if c = '\n' then ['\\', 'n']
  else if c = '\r' then ['\\', 'r']
  else if c = '\t' then ['\\', 't']
  else if isPrintable c then [c]
  else numberEscape c.toNat

/-- One code point of quoted text. -/
def quotedPoint (quote : Char) : CodePoint → List Char
  | .char c => quotedChar quote c
  | .half place => numberEscape (CodePoint.half place).number

/-- The quote that a text is put between. -/
def quoteFor (text : Text) : Char :=
  if text.contains (.char '\'') && !text.contains (.char '"') then '"' else '\''

/-- A text between quotes. -/
def quoted (text : Text) : Text :=
  let quote := quoteFor text
  ofChars (quote :: text.flatMap (quotedPoint quote) ++ [quote])

end ApiSurface.Text
