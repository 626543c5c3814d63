import ApiSurface.Decimal.Fixed
import ApiSurface.Value.Number

/-!
# Times of day and year

A number of seconds since the first of January 1970 in universal time as a date and a
time of day in some zone. Years are counted from the first of March within cycles of four
hundred years, so that the leap day comes last. Not every number is a time: the
clock counts seconds in 64 bits, the calendar counts years in 32.
-/

namespace ApiSurface.Timestamp

/-- A day of the calendar. -/
structure Date where
  year : Int
  month : Nat
  day : Nat
deriving DecidableEq, Repr

/-- Days in a cycle of four hundred years. -/
def cycleDays : Int := 146097

/-- Days from the first of March of the year zero to the epoch. -/
def epochDays : Int := 719468

/-- The date of a day counted from the epoch. -/
def dateOfDay (day : Int) : Date :=
  let shifted := day + epochDays
  let cycle := Int.fdiv shifted cycleDays
  let ofCycle := (Int.fmod shifted cycleDays).toNat
  let yearOfCycle := (ofCycle - ofCycle / 1460 + ofCycle / 36524 - ofCycle / 146096) / 365
  let ofYear := ofCycle - (365 * yearOfCycle + yearOfCycle / 4 - yearOfCycle / 100)
  let shiftedMonth := (5 * ofYear + 2) / 153
  let month := if shiftedMonth < 10 then shiftedMonth + 3 else shiftedMonth - 9
  { year := yearOfCycle + cycle * 400 + (if month ≤ 2 then 1 else 0)
    month
    day := ofYear - (153 * shiftedMonth + 2) / 5 + 1 }

/-- How many seconds a zone is ahead of universal time, at every time. -/
abbrev Zone := Int → Int

/-- Universal time itself. -/
def Zone.universal : Zone := fun _ => 0

/-- Why a value is no time. -/
inductive TimeFault where
  | wrongType
  | notANumber
  /-- The clock or the year does not reach that far. -/
  | unbounded
  /-- The calendar does not reach that far. -/
  | beyondCalendar
deriving DecidableEq, Repr

/-- The wording of a value that is no time, where it has one. -/
def TimeFault.message : TimeFault → String
  | notANumber => "Invalid value NaN (not a number)"
  | beyondCalendar => "[Errno 75] Value too large for defined data type"
  | _ => ""

/-- The seconds that a zone shows at a time in universal time, unless that is no time. The
calendar counts years from 1900, so it reaches beyond the last year that can be written. -/
def inZone (zone : Zone) (seconds : Int) : Except TimeFault Int :=
  let shown := seconds + zone seconds
  let year := (dateOfDay (Int.fdiv shown 86400)).year
  let wide : Int := Nat.pow 2 63
  let narrow : Int := Nat.pow 2 31
  if seconds < -wide ∨ wide ≤ seconds then .error .unbounded
  else if year < -narrow + 1900 ∨ narrow + 1900 ≤ year then .error .beyondCalendar
  else if narrow ≤ year then .error .unbounded
  else .ok shown

/-- The whole seconds that a zone shows at a time given by a number. -/
def ofDouble (zone : Zone) : Decimal.Double → Except TimeFault Int
  | .notANumber => .error .notANumber
  | number =>
    match number.floor? with
    | some seconds => inZone zone seconds
    | none => .error .unbounded

/-- The whole seconds that a zone shows at a time. -/
def ofValue (zone : Zone) : Value → Except TimeFault Int
  | .float x => ofDouble zone (Decimal.Double.ofFloat x)
  | value =>
    match value.asInteger? with
    | some seconds => inZone zone seconds
    | none => .error .wrongType

/-- A number in at least two digits. -/
def twoDigits (n : Nat) : String := String.ofList (Decimal.paddedDigits 2 n)

/-- A number of milliseconds in at least three characters. -/
def milliseconds (n : Int) : String :=
  if n < 0 then "-" ++ String.ofList (Decimal.paddedDigits 2 n.natAbs)
  else String.ofList (Decimal.paddedDigits 3 n.toNat)

/-- The date and the time of day that a zone shows, to the second. -/
def text (seconds : Int) : String :=
  let date := dateOfDay (Int.fdiv seconds 86400)
  let ofDay := (Int.fmod seconds 86400).toNat
  toString date.year ++ "-" ++ twoDigits date.month ++ "-" ++ twoDigits date.day ++ " " ++
    twoDigits (ofDay / 3600) ++ ":" ++ twoDigits (ofDay / 60 % 60) ++ ":" ++ twoDigits (ofDay % 60)

end ApiSurface.Timestamp
