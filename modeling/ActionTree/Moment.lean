import ActionTree.Text.Numeral

/-!
# ActionTree.Moment

Points in time and the civil calendar.

1. a moment is a count of seconds since the start of 1970, and a mark if it is
   the leap second behind the one that is counted;
2. the calendar is the Gregorian one, carried on in both directions, and its
   years reach from -262143 to 262142;
3. a moment is shown as an HTTP date: the weekday, the day, the month, the year
   with four digits or with a sign, the time, and `GMT`.

Days are counted from the first of March, so that the leap day comes last and
the days before a month are a linear formula.
-/

namespace ActionTree

open Text

/-! ## Types -/

/-- A point in time. -/
structure Moment where
  seconds : Int
  leap : Bool := false
deriving DecidableEq, Repr

/-- A day of the calendar; months and days count from one. -/
structure Date where
  year : Int
  month : Nat
  day : Nat
deriving DecidableEq, Repr

/-! ## The calendar -/

/-- Whether a year has a leap day. -/
def isLeapYear (y : Int) : Bool := y % 4 == 0 && (y % 100 != 0 || y % 400 == 0)

/-- How many days a month has. -/
def daysInMonth (y : Int) (m : Nat) : Nat :=
  if m = 2 then (if isLeapYear y then 29 else 28)
  else if m = 4 || m = 6 || m = 9 || m = 11 then 30
  else 31

/-- Whether the calendar has such a day. -/
def Date.isValid (d : Date) : Bool :=
  -262143 ≤ d.year && d.year ≤ 262142 && 1 ≤ d.month && d.month ≤ 12 &&
    1 ≤ d.day && d.day ≤ daysInMonth d.year d.month

/-- How many days a day is after the first of 1970. -/
def Date.toDays (d : Date) : Int :=
  let y := if d.month ≤ 2 then d.year - 1 else d.year
  let m : Int := if d.month ≤ 2 then d.month + 9 else d.month - 3
  let inYear := (153 * m + 2) / 5 + d.day - 1
  365 * y + y / 4 - y / 100 + y / 400 + inYear - 719468

/-- The day that is so many days after the first of 1970. -/
def Date.ofDays (n : Int) : Date :=
  let z := n + 719468
  let era := z / 146097
  let inEra := z % 146097
  let yearInEra := (inEra - inEra / 1460 + inEra / 36524 - inEra / 146096) / 365
  let inYear := inEra - (365 * yearInEra + yearInEra / 4 - yearInEra / 100)
  let m := (5 * inYear + 2) / 153
  let day := inYear - (153 * m + 2) / 5 + 1
  let month := if m < 10 then m + 3 else m - 9
  let year := yearInEra + 400 * era + (if month ≤ 2 then 1 else 0)
  ⟨year, month.toNat, day.toNat⟩

/-- The weekday of a day, Monday being zero. -/
def weekdayOfDays (n : Int) : Nat := ((n + 3) % 7).toNat

/-- The names of the weekdays. -/
def weekdayNames : List String := ["Mon", "Tue", "Wed", "Thu", "Fri", "Sat", "Sun"]

/-- The names of the months. -/
def monthNames : List String :=
  ["Jan", "Feb", "Mar", "Apr", "May", "Jun", "Jul", "Aug", "Sep", "Oct", "Nov", "Dec"]

/-! ## Moments -/

/-- Seconds of a day. -/
def secondsPerDay : Int := 86400

/-- The day that a moment is on. -/
def Moment.days (t : Moment) : Int := t.seconds / secondsPerDay

/-- The moment so many seconds after the start of 1970, if the calendar has the
day it is on. -/
def Moment.ofSeconds? (n : Int) : Option Moment :=
  let first := (Date.mk (-262143) 1 1).toDays
  let last := (Date.mk 262142 12 31).toDays
  let day := n / secondsPerDay
  if first ≤ day && day ≤ last then some ⟨n, false⟩ else none

/-! ## HTTP dates -/

/-- A number with at least so many digits. -/
def padded (width n : Nat) : String :=
  let ds := digitsOf n
  String.ofList (List.replicate (width - ds.length) '0' ++ ds)

/-- A year: four digits, or a sign and at least four digits. -/
def yearText (y : Int) : String :=
  if 0 ≤ y && y ≤ 9999 then padded 4 y.toNat
  else (if y < 0 then "-" else "+") ++ padded 4 y.natAbs

/-- A moment as an HTTP date. -/
def Moment.httpDate (t : Moment) : String :=
  let date := Date.ofDays t.days
  let inDay := (t.seconds % secondsPerDay).toNat
  weekdayNames.getD (weekdayOfDays t.days) "" ++ ", " ++ padded 2 date.day ++ " " ++
    monthNames.getD (date.month - 1) "" ++ " " ++ yearText date.year ++ " " ++
    padded 2 (inDay / 3600) ++ ":" ++ padded 2 (inDay / 60 % 60) ++ ":" ++
    padded 2 (inDay % 60 + if t.leap then 1 else 0) ++ " GMT"

end ActionTree
