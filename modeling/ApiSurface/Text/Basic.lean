import ApiSurface.Text.CodePoint

/-!
# Text

A text is a list of code points. What the cluster sends and what is configured may
hold halves of surrogate pairs, and nothing that is done to a text loses them; a text
is a string exactly if it holds none.
-/

namespace ApiSurface

/-- A text: its code points in order. -/
abbrev Text := List CodePoint

namespace Text

/-- The text of characters. -/
def ofChars (cs : List Char) : Text := cs.map .char

/-- The text of a string. -/
def ofString (s : String) : Text := ofChars s.toList

instance : Coe String Text := ⟨ofString⟩

/-- The characters of a text, if no half of a pair stands among them. -/
def chars? : Text → Option (List Char)
  | [] => some []
  | .char c :: rest => (chars? rest).map (c :: ·)
  | .half _ :: _ => none

/-- The string that a text is, if it is one. -/
def toString? (text : Text) : Option String := (chars? text).map String.ofList

theorem chars?_ofChars (cs : List Char) : chars? (ofChars cs) = some cs := by
  induction cs with
  | nil => rfl
  | cons c rest ih => exact congrArg (Option.map (c :: ·)) ih

theorem toString?_ofString (s : String) : toString? (ofString s) = some s := by
  simp [toString?, ofString, chars?_ofChars]

/-- A text in which two halves that make up a character are that character. -/
def paired : Text → Text
  | first :: second :: rest =>
    match CodePoint.ofHalves? first second with
    | some point => point :: paired rest
    | none => first :: paired (second :: rest)
  | text => text

end Text

end ApiSurface
