import ApiSurface.Text.Basic

/-!
# Loosely typed values

What the cluster sends is not trusted to have the expected shape, so a payload is
a `Value`: JSON, plus the *model* form in which a client library may hand the same
object over, with fields instead of keys. A payload is only ever looked into
through `firstField`, `isTruthy` and `items?`, which treat both forms alike.
-/

namespace ApiSurface

/-- A value of unknown shape. -/
inductive Value where
  | null
  | bool (b : Bool)
  | int (n : Int)
  | float (x : Float)
  | text (s : Text)
  | list (items : List Value)
  | record (entries : List (Text × Value))
  | model (fields : List (Text × Value))
deriving Inhabited

/-- A value was used as what it is not. -/
inductive Misuse where
  | wrongType
  | missingMember
  | outOfRange
  | missingKey
deriving DecidableEq, Repr

namespace Value

/-- Whether a value is absent. -/
def isNull : Value → Bool
  | null => true
  | _ => false

/-- Whether a value counts as given: null, false, zero, empty text, an empty list and
an empty record do not, everything else does. -/
def isTruthy : Value → Bool
  | null => false
  | bool b => b
  | int n => n != 0
  | float x => !(x == 0.0)
  | text s => !s.isEmpty
  | list items => !items.isEmpty
  | record entries => !entries.isEmpty
  | model _ => true

/-- The field of a record or a model with a given name. -/
def field? (name : Text) : Value → Option Value
  | record entries => entries.lookup name
  | model fields => fields.lookup name
  | _ => none

/-- The first field present among several names, or null if none is. -/
def firstField (v : Value) : List Text → Value
  | [] => null
  | name :: names => (v.field? name).getD (v.firstField names)

/-- One field by its name, or null. -/
def get (v : Value) (name : Text) : Value := v.firstField [name]

/-- What a value holds when it is gone through one by one: the items of a list, the
keys of a record, the code points of a text. Numbers, flags and models hold nothing
that can be gone through. -/
def items? : Value → Except Misuse (List Value)
  | list items => .ok items
  | record entries => .ok (entries.map fun entry => text entry.1)
  | text s => .ok (s.map fun point => text [point])
  | _ => .error .wrongType

/-- The items of a value, or none if the value does not count as given. -/
def itemsIfGiven (v : Value) : Except Misuse (List Value) :=
  if v.isTruthy then v.items? else .ok []

/-- The text a value is, if it is text. -/
def asText? : Value → Option Text
  | text s => some s
  | _ => none

/-- Whether a value is this text. -/
def isText (expected : Text) : Value → Bool
  | text s => s == expected
  | _ => false

/-- The name of a value's type, as error messages give it. -/
def typeName : Value → String
  | null => "NoneType"
  | bool _ => "bool"
  | int _ => "int"
  | float _ => "float"
  | text _ => "str"
  | list _ => "list"
  | record _ => "dict"
  | model _ => "object"

end Value

end ApiSurface
