import QueryGuard.Text.Blank
import QueryGuard.Time.Error

/-!
# `QueryGuard.Time.Duration`: lengths of time

A duration is written as amounts with units, the largest unit first and
each at most once: `1h30m`, never `30m1h`. Its seconds are summed as
doubles, unit by unit, so that a length with milliseconds in it carries
the rounding of that sum.
-/

set_option autoImplicit false

namespace QueryGuard

/-- A length of time in microseconds. -/
structure Duration where
  micros : Int
  deriving DecidableEq, Repr, Inhabited

namespace Duration

/-- The units of a duration. -/
inductive TimeUnit where
  | year
  | week
  | day
  | hour
  | minute
  | second
  | millisecond
  deriving DecidableEq, Repr

namespace TimeUnit

/-- All units, the largest first. -/
def all : List TimeUnit := [.year, .week, .day, .hour, .minute, .second, .millisecond]

/-- How a unit is written. -/
def symbol : TimeUnit → String
  | .year => "y"
  | .week => "w"
  | .day => "d"
  | .hour => "h"
  | .minute => "m"
  | .second => "s"
  | .millisecond => "ms"

/-- The place of a unit in the order in which units are written. -/
def rank : TimeUnit → Nat
  | .year => 0
  | .week => 1
  | .day => 2
  | .hour => 3
  | .minute => 4
  | .second => 5
  | .millisecond => 6

/-- The seconds in a unit; a millisecond has none. -/
def seconds : TimeUnit → Nat
  | .year => 31536000
  | .week => 604800
  | .day => 86400
  | .hour => 3600
  | .minute => 60
  | .second => 1
  | .millisecond => 0

/-- The unit of a symbol. -/
def ofSymbol? (symbol : List Char) : Option TimeUnit :=
  all.find? fun u => u.symbol.toList = symbol

end TimeUnit

/-- An amount, as the values of its digits, and its unit. -/
structure Component where
  digits : List Nat
  unit : TimeUnit
  deriving DecidableEq, Repr

/-- A component whose digits and symbol have been read. -/
def Component.of? (digits : List Nat) (symbol : List Char) : Option Component :=
  (TimeUnit.ofSymbol? symbol).map (⟨digits, ·⟩)

/-- Cut a text into amounts and symbols; `digits` and `symbol` are what
has been read of the current component. A digit after a symbol starts
the next one. -/
def scan (digits : List Nat) (symbol : List Char) : List Char → Option (List Component)
  | [] => do
    let last ← Component.of? digits symbol
    return [last]
  | c :: rest =>
    match Text.digitValue? c with
    | some d =>
      if symbol.isEmpty then scan (digits ++ [d]) [] rest
      else do
        let component ← Component.of? digits symbol
        let others ← scan [d] [] rest
        return component :: others
    | none => if digits.isEmpty then none else scan digits (symbol ++ [c]) rest

/-- Each unit is written after all larger ones. -/
def Ordered (components : List Component) : Prop :=
  components.Pairwise fun a b => a.unit.rank < b.unit.rank

instance (components : List Component) : Decidable (Ordered components) :=
  inferInstanceAs (Decidable (List.Pairwise _ _))

/-- The components of a duration. -/
def components? (cs : List Char) : Option (List Component) := do
  let components ← scan [] [] cs
  if Ordered components then some components else none

/-- A thousandth, as near as a double comes to it. -/
def thousandth : Double := Double.ofRatio false 1 1000

/-- A whole number as a double, which not every number has. -/
def whole (n : Nat) : Except TimeError Double :=
  (Double.ofInt? n).elim (.error .numberTooLarge) .ok

/-- The seconds of one component as a double: the whole product of
amount and unit, or the amount times a thousandth. -/
def Component.toSeconds (c : Component) : Except TimeError Double :=
  match Numeral.ofDigits c.digits with
  | .error _ => .error (.numeralTooLong c.digits.length)
  | .ok amount =>
    match c.unit with
    | .millisecond => (whole amount).map (·.mul thousandth)
    | u => whole (amount * u.seconds)

/-- The seconds of a row of components, added to those before. -/
def addSeconds (total : Double) : List Component → Except TimeError Double
  | [] => .ok total
  | c :: rest => do
    let x ← c.toSeconds
    addSeconds (total.add x) rest

/-- The microseconds of a day. -/
def microsPerDay : Int := 86400000000

/-- The most days that a duration may have, begun ones aside. -/
def maxDays : Int := 999999999

/-- A number of seconds as a duration, unless it has too many days. -/
def ofSeconds? (seconds : Double) : Option Duration :=
  match seconds.toMicroseconds? with
  | some micros =>
    let days := micros.fdiv microsPerDay
    if days.natAbs ≤ maxDays.natAbs then some ⟨micros⟩ else none
  | none => none

/-- Read a duration. A missing text is read as an empty one. -/
def parse (text : Option String) : Except TimeError Duration :=
  match components? (Text.trim (text.getD "").toList) with
  | none => .error (.invalidDuration text)
  | some components => do
    let seconds ← addSeconds Double.zero components
    match ofSeconds? seconds with
    | some d => return d
    | none => throw (.durationTooLarge text)

/-- One hour. -/
def hour : Duration := ⟨3600000000⟩

/-- The seconds of a duration, as the nearest double. -/
def toSeconds (d : Duration) : Double := Double.ofRatio (d.micros < 0) d.micros.natAbs 1000000

end Duration

end QueryGuard
