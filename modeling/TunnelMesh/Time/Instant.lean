/-
Points in time on the calendar of Gregory, in universal time.

A point is a number of seconds since the start of 1970 and nanoseconds.  A leap
second has a billion nanoseconds or more on top of its predecessor.
-/
import TunnelMesh.Time.Duration

namespace TunnelMesh

/-- A point in time. -/
structure Instant where
  /-- Seconds since the start of 1970. -/
  seconds : Int
  /-- Nanoseconds past that second; a billion or more inside a leap second. -/
  nanos : Nat
deriving DecidableEq, Repr, Inhabited

namespace Instant

/-- Seconds in a day. -/
def day : Int := 86400

/-- Days from 1970 to the first day of March of the year that `y` shifts to. -/
def daysBefore (y : Int) : Int :=
  365 * y + y.fdiv 4 - y.fdiv 100 + y.fdiv 400 - 719468

/-- Days from the start of 1970 to a date. -/
def daysOfDate (year : Int) (month day : Nat) : Int :=
  let y := if month ≤ 2 then year - 1 else year
  let m := if month ≤ 2 then month + 9 else month - 3
  daysBefore y + ((153 * m + 2) / 5 : Nat) + (day : Int) - 1

/-- Year, month and day of a number of days since the start of 1970. -/
def dateOfDays (days : Int) : Int × Nat × Nat :=
  let z := days + 719468
  let era := z.fdiv 146097
  let doe := (z - era * 146097).toNat
  let yoe := (doe - doe / 1460 + doe / 36524 - doe / 146096) / 365
  let doy := doe - (365 * yoe + yoe / 4 - yoe / 100)
  let mp := (5 * doy + 2) / 153
  let d := doy - (153 * mp + 2) / 5 + 1
  let m := if mp < 10 then mp + 3 else mp - 9
  let y : Int := (yoe : Int) + era * 400
  (if m ≤ 2 then y + 1 else y, m, d)

/-- Whether a year has a 29th of February. -/
def isLeap (year : Int) : Bool :=
  year % 4 == 0 && (year % 100 != 0 || year % 400 == 0)

/-- The number of days of a month. -/
def daysInMonth (year : Int) (month : Nat) : Nat :=
  if month = 2 then (if isLeap year then 29 else 28)
  else if month = 4 ∨ month = 6 ∨ month = 9 ∨ month = 11 then 30
  else 31

/-- The first and the last year of the calendar. -/
def firstYear : Int := -262143
def lastYear : Int := 262142

/-- The first and the last second of the calendar. -/
def firstSecond : Int := daysOfDate firstYear 1 1 * day
def lastSecond : Int := daysOfDate lastYear 12 31 * day + 86399

/-- A year: four digits from 0 to 9999, else with a sign. -/
def yearText (year : Int) : String :=
  let digits := Decimal.padZeros 4 (toString year.natAbs)
  if year < 0 then "-" ++ digits
  else if year ≤ 9999 then digits
  else "+" ++ digits

/-- A fraction of a second in as few groups of three digits as it needs. -/
def fractionText (nanos : Nat) : String :=
  if nanos = 0 then ""
  else if nanos % 1000000 = 0 then "." ++ Decimal.padZeros 3 (toString (nanos / 1000000))
  else if nanos % 1000 = 0 then "." ++ Decimal.padZeros 6 (toString (nanos / 1000))
  else "." ++ Decimal.padZeros 9 (toString nanos)

/-- The text of a point in time: date, `T`, time, `Z`. -/
def toText (t : Instant) : String :=
  let (y, m, d) := dateOfDays (t.seconds.fdiv day)
  let s := (t.seconds.fmod day).toNat
  let leap := Duration.second ≤ t.nanos
  let sec := s % 60 + (if leap then 1 else 0)
  let nanos := if leap then t.nanos - Duration.second else t.nanos
  let two (n : Nat) := Decimal.padZeros 2 (toString n)
  yearText y ++ "-" ++ two m ++ "-" ++ two d ++ "T" ++ two (s / 3600) ++ ":" ++
    two (s / 60 % 60) ++ ":" ++ two sec ++ fractionText nanos ++ "Z"

/-- The time from `b` to `a` in nanoseconds. A leap second that lies between them on the clock
counts. -/
def since (a b : Instant) : Int :=
  let ca := a.seconds.fmod day
  let cb := b.seconds.fmod day
  let adjust : Int :=
    if cb < ca ∧ Duration.second ≤ b.nanos then 1
    else if ca < cb ∧ Duration.second ≤ a.nanos then -1
    else 0
  (a.seconds - b.seconds + adjust) * 1000000000 + ((a.nanos : Int) - b.nanos)

/-- The time from `b` to `a`, or nothing at all where `b` is later. -/
def elapsed (a b : Instant) : Duration := ⟨(a.since b).toNat⟩

/-- The point a whole number of seconds after the start of 1970, where the calendar reaches it. -/
def ofSeconds? (n : Int) : Option Instant :=
  if firstSecond ≤ n ∧ n ≤ lastSecond then some ⟨n, 0⟩ else none

end Instant

end TunnelMesh
