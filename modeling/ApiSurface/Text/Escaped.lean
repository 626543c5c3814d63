import ApiSurface.Text.Quoted

/-!
# Text as a JSON string of ASCII characters

A JSON string in which everything outside printable ASCII is escaped: five controls
by a letter, every other character by its one or two UTF-16 units, and half of a
surrogate pair by the unit that it is.
What is written holds no line break, no control and nothing beyond ASCII.
-/

namespace ApiSurface.Text

/-- The escape of one UTF-16 unit. -/
def unitEscape (unit : Nat) : List Char := '\\' :: 'u' :: hex 4 unit

/-- The UTF-16 units of a character. -/
def utf16Units (c : Char) : List Nat :=
  if c.toNat < 0x10000 then [c.toNat]
  else [0xD800 + (c.toNat - 0x10000) / 0x400, 0xDC00 + (c.toNat - 0x10000) % 0x400]

/-- One character within a JSON string. -/
def escapedChar (c : Char) : List Char :=
  if c = '"' || c = '\\' then ['\\', c]
  else if c = '\n' then ['\\', 'n']
  else if c = '\r' then ['\\', 'r']
  else if c = '\t' then ['\\', 't']
  else if c = '\x0c' then ['\\', 'f']
  else if c = '\x08' then ['\\', 'b']
  else if 0x20 ≤ c.toNat && c.toNat < 0x7F then [c]
  else (utf16Units c).flatMap unitEscape

/-- One code point within a JSON string. -/
def escapedPoint : CodePoint → List Char
  | .char c => escapedChar c
  | .half place => unitEscape (CodePoint.half place).number

/-- A text as a JSON string. -/
def escaped (text : Text) : List Char := '"' :: text.flatMap escapedPoint ++ ['"']

end ApiSurface.Text
