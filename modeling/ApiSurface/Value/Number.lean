import ApiSurface.Value.Basic
import ApiSurface.Decimal.Double
import ApiSurface.Text.Digit

/-!
# Numbers among values

Flags count as one and zero, and a floating-point number equals an integer if it
has exactly its value. Two floating-point values that are no numbers count as the
same, so that each is the same as itself. Turning a value into an integer reads
text, drops the fraction of a number and fails for one of three reasons otherwise.
-/

namespace ApiSurface

/-- Why a value is no integer. -/
inductive IntegerFault where
  | unreadable
  | unbounded
  | wrongType
deriving DecidableEq, Repr

namespace Value

/-- The integer a value stands for. -/
def toInteger : Value → Except IntegerFault Int
  | bool b => .ok (if b then 1 else 0)
  | int n => .ok n
  | float x =>
    match Decimal.Double.ofFloat x with
    | .notANumber => .error .unreadable
    | .infinite _ => .error .unbounded
    | number =>
      match number.truncate? with
      | some n => .ok n
      | none => .error .unreadable
  | text s =>
    match Text.readInteger s with
    | some n => .ok n
    | none => .error .unreadable
  | _ => .error .wrongType

/-- The integer a flag or an integer is. -/
def asInteger? : Value → Option Int
  | bool b => some (if b then 1 else 0)
  | int n => some n
  | _ => none

/-- Whether two floating-point numbers are equal, or neither is a number. -/
def sameFloat (x y : Float) : Bool := (Decimal.Double.ofFloat x).same (Decimal.Double.ofFloat y)

mutual

/-- Whether two values are equal: numbers by value, whatever their type, everything
else by form and content, models included. -/
def same : Value → Value → Bool
  | null, null => true
  | text s, text t => s == t
  | float x, float y => sameFloat x y
  | float x, v =>
    match v.asInteger? with
    | some n => (Decimal.Double.ofFloat x).isInteger n
    | none => false
  | bool b, float y => (Decimal.Double.ofFloat y).isInteger (if b then 1 else 0)
  | int n, float y => (Decimal.Double.ofFloat y).isInteger n
  | bool b, v => v.asInteger? == some (if b then 1 else 0)
  | int n, v => v.asInteger? == some n
  | list items, list others => sameItems items others
  | record entries, record others => entries.length == others.length && sameEntries entries others
  | model fields, model others => fields.length == others.length && sameEntries fields others
  | _, _ => false

/-- Whether two lists hold equal values at every position. -/
def sameItems : List Value → List Value → Bool
  | [], [] => true
  | item :: items, other :: others => same item other && sameItems items others
  | _, _ => false

/-- Whether every entry has an equal one under its key among the others. -/
def sameEntries : List (Text × Value) → List (Text × Value) → Bool
  | [], _ => true
  | (key, value) :: entries, others =>
    (match others.lookup key with
      | some other => same value other
      | none => false) && sameEntries entries others

end

/-- Whether a value can be looked up among others: lists, records and models cannot, since
they are equal by content, which can change. -/
def isLookupKey : Value → Bool
  | list _ => false
  | record _ => false
  | model _ => false
  | _ => true

end Value

end ApiSurface
