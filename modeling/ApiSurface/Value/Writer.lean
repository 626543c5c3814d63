import ApiSurface.Decimal.Double
import ApiSurface.Text.Escaped
import ApiSurface.Value.Basic

/-!
# Values as JSON text

A value is written on one line, in printable ASCII characters only, with a blank
after every comma and colon between its parts. A model is written as the record of
its fields; a number that is none is written as a word.
-/

namespace ApiSurface.Value

/-- How a double is written. -/
def doubleChars : Decimal.Double → List Char
  | .notANumber => "NaN".toList
  | .infinite negative => if negative then "-Infinity".toList else "Infinity".toList
  | double => double.text.toList

mutual

/-- The characters of a value's JSON text. -/
def jsonChars : Value → List Char
  | null => "null".toList
  | bool b => if b then "true".toList else "false".toList
  | int n => (toString n).toList
  | float x => doubleChars (Decimal.Double.ofFloat x)
  | text s => Text.escaped s
  | list items => '[' :: itemsChars items
  | record entries => '\x7b' :: entriesChars entries
  | model fields => '\x7b' :: entriesChars fields

/-- The characters of a list's items and its closing bracket. -/
def itemsChars : List Value → List Char
  | [] => [']']
  | [item] => jsonChars item ++ [']']
  | item :: items => jsonChars item ++ ',' :: ' ' :: itemsChars items

/-- The characters of a record's entries and its closing brace. -/
def entriesChars : List (Text × Value) → List Char
  | [] => ['\x7d']
  | [(key, value)] => Text.escaped key ++ ':' :: ' ' :: jsonChars value ++ ['\x7d']
  | (key, value) :: entries =>
    Text.escaped key ++ ':' :: ' ' :: jsonChars value ++ ',' :: ' ' :: entriesChars entries

end

/-- A value's JSON text. -/
def json (v : Value) : String := String.ofList v.jsonChars

end ApiSurface.Value
