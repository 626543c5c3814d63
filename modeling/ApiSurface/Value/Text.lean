import ApiSurface.Value.Basic
import ApiSurface.Decimal.Double
import ApiSurface.Text.Quoted

/-!
# Values as text

A text shows as itself; everything else shows as it would inside a list, where
texts are quoted. A model hides its fields.
-/

namespace ApiSurface.Value

mutual

/-- A value as it shows inside another. -/
def shown : Value → Text
  | null => "None"
  | bool b => if b then "True" else "False"
  | int n => toString n
  | float x => (Decimal.Double.ofFloat x).text
  | text s => Text.quoted s
  | list items => "[" ++ List.intercalate ", " (shownItems items) ++ "]"
  | record entries => "\x7b" ++ List.intercalate ", " (shownEntries entries) ++ "\x7d"
  | model _ => "<object>"

/-- The items of a list as they show. -/
def shownItems : List Value → List Text
  | [] => []
  | item :: items => shown item :: shownItems items

/-- The entries of a record as they show. -/
def shownEntries : List (Text × Value) → List Text
  | [] => []
  | (key, value) :: entries => (Text.quoted key ++ ": " ++ shown value) :: shownEntries entries

end

/-- A value as text. Integers of any length have one, although only those of limited length are
read from text. -/
def toText : Value → Text
  | text s => s
  | v => v.shown

/-- A value as text, with nothing for a value that does not count as given. -/
def textIfGiven (v : Value) : Text := if v.isTruthy then v.toText else ""

end ApiSurface.Value
