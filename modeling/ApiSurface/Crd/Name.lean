import ApiSurface.Text.Case

/-!
# Names of custom resource definitions

A definition is named `<plural>.<group>`, and the plural of a kind follows the
usual English heuristic on its lower-case form: `-es` after `s`, `-ies` for a `y`
after anything but a vowel, `-s` otherwise.
-/

namespace ApiSurface.Crd

/-- A kind of object within a group and version. -/
structure GroupVersionKind where
  group : Text
  version : Text
  kind : Text
deriving DecidableEq, Repr

/-- Whether a lower-case letter is a vowel. -/
def isVowel (c : Char) : Bool := ['a', 'e', 'i', 'o', 'u'].contains c

/-- The plural of a lower-case word, given with its last letter first. -/
def pluralOfReversed : Text → Text
  | .char 's' :: rest => (.char 's' :: rest).reverse ++ "es"
  | .char 'y' :: rest =>
    if rest.head?.any (CodePoint.any isVowel) then (.char 'y' :: rest).reverse ++ "s"
    else rest.reverse ++ "ies"
  | word => word.reverse ++ "s"

/-- The plural of a kind, in lower case. -/
def pluralOf (kind : Text) : Text := pluralOfReversed (Text.lower kind).reverse

namespace GroupVersionKind

/-- The name of the definition behind a kind. -/
def definitionName (gvk : GroupVersionKind) : Text := pluralOf gvk.kind ++ "." ++ gvk.group

/-- How a kind is shown in messages. -/
def text (gvk : GroupVersionKind) : Text :=
  gvk.group ++ "/" ++ gvk.version ++ ", Kind=" ++ gvk.kind

end GroupVersionKind

end ApiSurface.Crd
