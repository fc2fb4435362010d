import AppSurvey.Number.Basic
import AppSurvey.Text.Hex

/-!
# Points in time

Seconds since the beginning of 1970 as a date and a time of day, in universal time. Years from 1 to
9999 can be shown; a point in time whose day before has no such year cannot be shown either.
-/

namespace AppSurvey.Calendar

open Text

/-- A date and a time of day. -/
structure Moment where
  year : Int
  month : Nat
  day : Nat
  hour : Nat
  minute : Nat
  second : Nat
  microsecond : Nat
  deriving DecidableEq

/-- Why a count of seconds is no point in time. -/
inductive Fault where
  /-- The year cannot be shown. -/
  | yearOutOfRange (year : Int)
  /-- The year does not fit the system's calendar. -/
  | yearTooLarge
  /-- The count does not fit the system's clock. -/
  | secondsTooLarge
  | undefinedSeconds
  deriving DecidableEq

def Fault.message : Fault → String
  | .yearOutOfRange year => s!"year {year} is out of range"
  | .yearTooLarge => "[Errno 75] Value too large for defined data type"
  | .secondsTooLarge => "timestamp out of range for platform time_t"
  | .undefinedSeconds => "Invalid value NaN (not a number)"

/-- The year, month and day of a count of days since the beginning of 1970. Years are counted from
March, so that the leap day is the last of its year, and in cycles of 400 years. -/
def dateOf (days : Int) : Int × Nat × Nat :=
  let shifted := days + 719468
  let cycle := shifted.fdiv 146097
  let dayOfCycle := (shifted.fmod 146097).toNat
  let yearOfCycle :=
    (dayOfCycle - dayOfCycle / 1460 + dayOfCycle / 36524 - dayOfCycle / 146096) / 365
  let dayOfYear := dayOfCycle - (365 * yearOfCycle + yearOfCycle / 4 - yearOfCycle / 100)
  let monthFromMarch := (5 * dayOfYear + 2) / 153
  let day := dayOfYear - (153 * monthFromMarch + 2) / 5 + 1
  let month := if monthFromMarch < 10 then monthFromMarch + 3 else monthFromMarch - 9
  let year : Int := cycle * 400 + yearOfCycle + (if month ≤ 2 then 1 else 0)
  (year, month, day)

/-- The seconds of a day. -/
def daySeconds : Int := 86400

/-- The year in which a count of seconds falls. -/
def yearOf (seconds : Int) : Int :=
  (dateOf (seconds.fdiv daySeconds)).1

/-- The number by which a year is told: it has 32 bits and a sign. -/
def word32 (year : Int) : Int := Int.bmod year 0x100000000

/-- Can the year be shown? -/
def inRange (year : Int) : Bool := decide (1 ≤ year ∧ year ≤ 9999)

/-- The point in time of whole seconds and microseconds. -/
def momentOf (seconds : Int) (microsecond : Nat) : Moment :=
  let (year, month, day) := dateOf (seconds.fdiv daySeconds)
  let rest := (seconds.fmod daySeconds).toNat
  { year, month, day
    hour := rest / 3600
    minute := rest / 60 % 60
    second := rest % 60
    microsecond }

/-- Whole seconds and microseconds of a finite number of seconds, to the nearest microsecond. -/
def splitBinary (x : Binary64) : Int × Nat :=
  let (num, den) := x.ratio
  let whole : Int := num / den
  let (a, b) := (Binary64.ofRatio false (num % den * 1000000) den).ratio
  let micros := roundDiv a b
  if x.negative then
    if micros = 0 then (-whole, 0)
    else (-whole - 1, 1000000 - micros)
  else if 1000000 ≤ micros then (whole + 1, micros - 1000000)
  else (whole, micros)

/-- Whole seconds and microseconds of a number of seconds. -/
def splitSeconds : Number → Except Fault (Int × Nat)
  | .int n => .ok (n, 0)
  | .float x => .ok (splitBinary x)
  | .infinite _ => .error .secondsTooLarge
  | .undefined => .error .undefinedSeconds

/-- The point in time of whole seconds and microseconds, if it can be shown. -/
def ofSeconds (seconds : Int) (microsecond : Nat) : Except Fault Moment :=
  if seconds < -0x8000000000000000 ∨ 0x8000000000000000 ≤ seconds then .error .secondsTooLarge
  else
    let year := yearOf seconds
    let eve := yearOf (seconds - daySeconds)
    if year - 1900 < -0x80000000 ∨ 0x80000000 ≤ year - 1900 then .error .yearTooLarge
    else if !inRange year then .error (.yearOutOfRange (word32 year))
    else if !inRange eve then .error (.yearOutOfRange (word32 eve))
    else .ok (momentOf seconds microsecond)

/-- The point in time of a number of seconds. -/
def ofTimestamp (timestamp : Number) : Except Fault Moment := do
  let (seconds, microsecond) ← splitSeconds timestamp
  ofSeconds seconds microsecond

/-- A part of a date with a fixed count of digits. -/
def padded (width n : Nat) : String := padLeft width '0' (toString n)

/-- The point in time as text; the fraction stands only where the second is not whole. -/
def Moment.text (moment : Moment) : String :=
  s!"{padded 4 moment.year.toNat}-{padded 2 moment.month}-{padded 2 moment.day}T"
    ++ s!"{padded 2 moment.hour}:{padded 2 moment.minute}:{padded 2 moment.second}"
    ++ (if moment.microsecond = 0 then "" else s!".{padded 6 moment.microsecond}")

end AppSurvey.Calendar
