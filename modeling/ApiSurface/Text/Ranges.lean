/-!
# Classes of characters

A class of characters is a list of inclusive ranges of code points. The classes
of this library are data of the character standard, each in the module named
for its property; this module holds the type and the one question asked of it.
-/

namespace ApiSurface.Text

/-- A class of characters: inclusive ranges of code points, in ascending order. -/
abbrev CharRanges := List (Nat × Nat)

/-- Whether a character lies in one of the ranges. -/
def CharRanges.has (ranges : CharRanges) (c : Char) : Bool :=
  ranges.any fun range => range.1 ≤ c.toNat && c.toNat ≤ range.2

theorem CharRanges.has_iff {ranges : CharRanges} {c : Char} :
    ranges.has c = true ↔ ∃ range ∈ ranges, range.1 ≤ c.toNat ∧ c.toNat ≤ range.2 := by
  simp [CharRanges.has]

theorem CharRanges.has_append (first second : CharRanges) (c : Char) :
    CharRanges.has (first ++ second) c = (first.has c || second.has c) := by
  simp [CharRanges.has]

end ApiSurface.Text
