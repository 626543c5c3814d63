import ApiSurface.Text.Basic
import ApiSurface.Text.Ranges

/-!
# Blank characters, trimmed text and separated fields

A character is blank if it separates words, lines or paragraphs in any script:
the control separators, the line and paragraph separators and every space
character. Trimming removes blanks at both ends and nothing else; splitting cuts
at every occurrence of a separator, so `n` separators leave `n + 1` fields.
-/

namespace ApiSurface.Text

/-- The blank characters. -/
def blankRanges : CharRanges :=
  [(0x09, 0x0D), (0x1C, 0x20), (0x85, 0x85), (0xA0, 0xA0), (0x1680, 0x1680), (0x2000, 0x200A),
   (0x2028, 0x2029), (0x202F, 0x202F), (0x205F, 0x205F), (0x3000, 0x3000)]

/-- Whether a character is blank. -/
def isBlank (c : Char) : Bool := blankRanges.has c

/-- Text without the blanks at its two ends. -/
def trim (text : Text) : Text :=
  ((text.dropWhile (CodePoint.any isBlank)).reverse.dropWhile (CodePoint.any isBlank)).reverse

/-- The fields of a text between the occurrences of a separator. -/
def fields (separator : CodePoint) : Text → List Text
  | [] => [[]]
  | point :: rest =>
    if point = separator then [] :: fields separator rest
    else
      match fields separator rest with
      | [] => [[point]]
      | field :: more => (point :: field) :: more

/-- Fields written with a separator between them. -/
def joinFields (separator : CodePoint) : List Text → Text
  | [] => []
  | [field] => field
  | field :: more => field ++ separator :: joinFields separator more

theorem fields_ne_nil (separator : CodePoint) (text : Text) : fields separator text ≠ [] := by
  cases text with
  | nil => simp [fields]
  | cons point rest =>
    simp only [fields]
    split
    · simp
    · split <;> simp

/-- Every character that core calls white space is blank. -/
theorem isBlank_of_isWhitespace {c : Char} (white : c.isWhitespace = true) : isBlank c = true := by
  simp only [Char.isWhitespace, Bool.or_eq_true, decide_eq_true_eq] at white
  rcases white with ((white | white) | white) | white <;> subst white <;> decide

end ApiSurface.Text
