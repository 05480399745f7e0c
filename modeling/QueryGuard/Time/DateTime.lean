import QueryGuard.Text.DecimalDigit
import QueryGuard.Time.Calendar
import QueryGuard.Time.Duration

/-!
# `QueryGuard.Time.DateTime`: points in time

A point in time is what a clock shows and, if it is known, how far that
clock is ahead of universal time. What the clock shows stays within the
calendar; arithmetic that would leave it gives nothing.
-/

set_option autoImplicit false

namespace QueryGuard

namespace DateTime

/-- The microseconds of the calendar, from its first day on. -/
def wallLimit : Int := (Calendar.daysBeforeYear (Calendar.maxYear + 1) : Int) * 86400000000

/-- The first instant of Unix time, in microseconds of the calendar. -/
def unixEpoch : Int := 62135596800000000

end DateTime

/-- A point in time. -/
structure DateTime where
  /-- What the clock shows, in microseconds of the calendar. -/
  wall : Int
  /-- How far the clock is ahead of universal time, in microseconds. -/
  offset : Option Int
  wall_inRange : 0 ≤ wall ∧ wall < DateTime.wallLimit := by decide
  deriving DecidableEq

namespace DateTime

/-- A point in time, if the clock can show it. -/
def of? (wall : Int) (offset : Option Int) : Option DateTime :=
  if h : 0 ≤ wall ∧ wall < wallLimit then some ⟨wall, offset, h⟩ else none

/-- The microseconds of universal time; an unknown offset counts as
none. -/
def instant (t : DateTime) : Int := t.wall - t.offset.getD 0

/-- The point of universal time at a number of Unix microseconds. -/
def ofUnixMicros? (micros : Int) : Option DateTime := of? (micros + unixEpoch) (some 0)

/-- The same instant on the clock of universal time. -/
def toUtc? (t : DateTime) : Option DateTime := of? t.instant (some 0)

/-- A point in time moved by a duration, on its own clock. -/
def add? (t : DateTime) (d : Duration) : Option DateTime := of? (t.wall + d.micros) t.offset

/-- A point in time moved back by a duration, on its own clock. -/
def sub? (t : DateTime) (d : Duration) : Option DateTime := of? (t.wall - d.micros) t.offset

/-- An instant comes before another. Nothing is said of a clock with an
offset and one without. -/
def before? (s t : DateTime) : Option Bool :=
  if s.offset.isSome = t.offset.isSome then some (s.instant < t.instant) else none

/-- The time from one instant to another. -/
def since (t s : DateTime) : Duration := ⟨t.instant - s.instant⟩

/-- Hours, minutes, seconds and microseconds of a time of day. -/
def clockText (micros : Nat) (always : Bool) : List Char :=
  let seconds := micros / 1000000
  let fraction := micros % 1000000
  let hm := Text.paddedDigits 2 (seconds / 3600) ++ ':' :: Text.paddedDigits 2 (seconds / 60 % 60)
  let s := if always || seconds % 60 != 0 || fraction != 0 then
    ':' :: Text.paddedDigits 2 (seconds % 60) else []
  let f := if fraction != 0 then '.' :: Text.paddedDigits 6 fraction else []
  hm ++ s ++ f

/-- The text of an offset: its sign, hours and minutes, and more where
there is more. -/
def offsetText (offset : Int) : List Char :=
  (if offset < 0 then '-' else '+') :: clockText offset.natAbs false

/-- Year, month and day. -/
def dateText (d : Calendar.Date) : List Char :=
  Text.paddedDigits 4 d.year ++ '-' :: Text.paddedDigits 2 d.month
    ++ '-' :: Text.paddedDigits 2 d.day

/-- The microseconds of a day. -/
def dayMicros : Nat := 86400000000

/-- Date and time of day, the fraction only if there is one. -/
def wallText (t : DateTime) : List Char :=
  let wall := t.wall.toNat
  dateText (Calendar.Date.ofDays (wall / dayMicros)) ++ 'T' :: clockText (wall % dayMicros) true

/-- Date, time of day and offset. -/
def isoText (t : DateTime) : String :=
  String.ofList (t.wallText ++ (t.offset.map offsetText).getD [])

/-- Date and time of day of universal time, marked by a `Z`. -/
def zuluText (t : DateTime) : String := String.ofList (t.wallText ++ ['Z'])

end DateTime

end QueryGuard
