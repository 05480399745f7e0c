/-!
# `QueryGuard.Time.Calendar`: days and dates

Days are numbered from zero on the first of January of the year one, in
the Gregorian calendar carried back to that day. Dates run to the end
of the year 9999.
-/

set_option autoImplicit false

namespace QueryGuard.Calendar

/-- A leap year. -/
def isLeap (year : Nat) : Bool := year % 4 == 0 && (year % 100 != 0 || year % 400 == 0)

/-- The days of a month of a year. -/
def daysInMonth (year month : Nat) : Nat :=
  match month with
  | 2 => if isLeap year then 29 else 28
  | 4 | 6 | 9 | 11 => 30
  | _ => 31

/-- The days before a year. -/
def daysBeforeYear (year : Nat) : Nat :=
  let y := year - 1
  365 * y + y / 4 - y / 100 + y / 400

/-- The days of a year before a month. -/
def daysBeforeMonth (year : Nat) : Nat → Nat
  | 0 => 0
  | 1 => 0
  | month + 1 => daysBeforeMonth year month + daysInMonth year month

/-- A date. -/
structure Date where
  year : Nat
  month : Nat
  day : Nat
  deriving DecidableEq, Repr

/-- The last year of the calendar. -/
def maxYear : Nat := 9999

/-- The fields name a day of the calendar. -/
def Date.isValid (d : Date) : Bool :=
  1 ≤ d.year && d.year ≤ maxYear && 1 ≤ d.month && d.month ≤ 12
    && 1 ≤ d.day && d.day ≤ daysInMonth d.year d.month

/-- The number of a date. -/
def Date.toDays (d : Date) : Nat :=
  daysBeforeYear d.year + daysBeforeMonth d.year d.month + (d.day - 1)

/-- The month of a day of a year, from the given month on, and what is
left of the days. -/
def monthFrom (year : Nat) : Nat → Nat → Nat → Nat × Nat
  | 0, month, days => (month, days)
  | fuel + 1, month, days =>
    if days < daysInMonth year month then (month, days)
    else monthFrom year fuel (month + 1) (days - daysInMonth year month)

/-- The year of a day: it is found by cutting off whole cycles of four
hundred, a hundred, four years and one year. The last day of a cycle
would count one year too many. -/
def yearOfDays (days : Nat) : Nat :=
  let n400 := days / 146097
  let r := days % 146097
  let n100 := min (r / 36524) 3
  let r := r - n100 * 36524
  let n4 := r / 1461
  let r := r % 1461
  let n1 := min (r / 365) 3
  400 * n400 + 100 * n100 + 4 * n4 + n1 + 1

/-- The date of a day. -/
def Date.ofDays (days : Nat) : Date :=
  let year := yearOfDays days
  let (month, rest) := monthFrom year 11 1 (days - daysBeforeYear year)
  ⟨year, month, rest + 1⟩

/-- The day of the week, zero for a Monday. -/
def weekday (days : Nat) : Nat := days % 7

/-- A year of 53 weeks starts on a Thursday, or on a Wednesday if it is
a leap year. -/
def hasLongWeekCount (year : Nat) : Bool :=
  let first := weekday (daysBeforeYear year)
  first == 3 || (first == 2 && isLeap year)

/-- The Monday of the first week of a year, the week that holds its
first Thursday. It may lie up to three days before the calendar
starts. -/
def firstMonday (year : Nat) : Int :=
  let first := daysBeforeYear year
  let monday : Int := (first : Int) - weekday first
  if 3 < weekday first then monday + 7 else monday

/-- The day of a week date. -/
def daysOfWeekDate? (year week day : Nat) : Option Nat :=
  if 1 ≤ year && 1 ≤ week && (week ≤ 52 || (week == 53 && hasLongWeekCount year))
      && 1 ≤ day && day ≤ 7 then
    let days := firstMonday year + ((week - 1) * 7 + (day - 1) : Nat)
    if 0 ≤ days && days < (daysBeforeYear (maxYear + 1) : Int) then some days.toNat else none
  else none

end QueryGuard.Calendar
