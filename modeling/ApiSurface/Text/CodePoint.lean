/-!
# Code points

A code point is a character or half of a surrogate pair. A half is no character: it
has no case, belongs to no word and cannot be encoded. But a JSON string can name one
by its number, and a message template can ask for one.
-/

namespace ApiSurface

/-- A character, or half of a surrogate pair by its place among the halves. -/
inductive CodePoint where
  | char (c : Char)
  | half (place : Fin 0x800)
deriving DecidableEq, Repr

namespace CodePoint

instance : Coe Char CodePoint := ⟨char⟩

/-- The number of the first half. -/
def firstHalf : Nat := 0xD800

/-- The number of a code point. -/
def number : CodePoint → Nat
  | char c => c.toNat
  | half place => firstHalf + place

/-- The code point of a number, if it has one. -/
def ofNat? (n : Nat) : Option CodePoint :=
  if 0x110000 ≤ n then none
  else if inRange : firstHalf ≤ n ∧ n < firstHalf + 0x800 then
    some (half ⟨n - firstHalf, by omega⟩)
  else some (char (Char.ofNat n))

/-- Every code point is the one of its number. -/
theorem ofNat?_number (point : CodePoint) : ofNat? point.number = some point := by
  cases point with
  | char c =>
    have valid : c.toNat < 0xD800 ∨ 0xDFFF < c.toNat ∧ c.toNat < 0x110000 := c.valid
    have small : ¬ 0x110000 ≤ c.toNat := by omega
    have outside : ¬ (firstHalf ≤ c.toNat ∧ c.toNat < firstHalf + 0x800) := by
      unfold firstHalf
      omega
    simp [ofNat?, number, small, outside]
  | half place =>
    have bound := place.isLt
    have small : ¬ 0x110000 ≤ firstHalf + place.val := by
      unfold firstHalf
      omega
    simp [ofNat?, number, small]

/-- Whether a code point is a character with some property. -/
def any (property : Char → Bool) : CodePoint → Bool
  | char c => property c
  | half _ => false

/-- The code points that a character is mapped to; half of a pair stays as it is. -/
def expand (f : Char → List Char) : CodePoint → List CodePoint
  | char c => (f c).map char
  | half place => [half place]

/-- The character that two halves make up, if the first begins a pair and the second
ends one. -/
def ofHalves? : CodePoint → CodePoint → Option CodePoint
  | half first, half second =>
    if first.val < 0x400 ∧ 0x400 ≤ second.val then
      some (char (Char.ofNat (0x10000 + first * 0x400 + (second - 0x400))))
    else none
  | _, _ => none

end CodePoint

end ApiSurface
