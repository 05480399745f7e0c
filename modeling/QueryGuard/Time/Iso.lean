import QueryGuard.Time.DateTime

/-!
# `QueryGuard.Time.Iso`: reading dates and times

A date is a calendar date or a week date, with dashes throughout or
none; any one character stands between date and time; the time has two
digits to each field, with colons throughout or none, and a fraction
that counts as seconds wherever it stands. An offset starts at the
first sign in the time and has the same form. Offsets must stay under a
day, but their fields are not checked one by one.
-/

set_option autoImplicit false

namespace QueryGuard.Iso

/-- A number of exactly so many digits, and the rest. -/
def fixedDigits? (width : Nat) (cs : List Char) : Option (Nat × List Char) :=
  let front := cs.take width
  if front.length = width && front.all Text.isAsciiDigit then
    some (Text.numberOfDigits (front.map (·.toNat - 0x30)), cs.drop width)
  else none

/-- The character at a place is as told. -/
def charAt (cs : List Char) (i : Nat) (p : Char → Bool) : Bool := (cs[i]?).any p

/-- How long the date in front is. A week date without dashes has a day
digit if an even number of digits follows its week; one with dashes has
none if digits follow the second dash two by two. -/
def dateLength? (cs : List Char) : Option Nat :=
  if cs.length < 7 then none
  else if cs.length = 7 then some 7
  else if charAt cs 4 (· = '-') then
    if charAt cs 5 (· = 'W') then
      if charAt cs 8 (· = '-') then
        if cs.length = 9 then none
        else if charAt cs 10 Text.isAsciiDigit then some 8
        else some 10
      else some 8
    else some 10
  else if charAt cs 4 (· = 'W') then
    let stop := 7 + ((cs.drop 7).takeWhile Text.isAsciiDigit).length
    if stop < 9 then some stop else if stop % 2 = 0 then some 7 else some 8
  else some 8

/-- A dash, where dashes are used. -/
def dash? (dashes : Bool) (cs : List Char) : Option (List Char) :=
  if dashes then
    match cs with
    | '-' :: rest => some rest
    | _ => none
  else some cs

/-- The day that a date names. -/
def days? (cs : List Char) : Option Nat := do
  let (year, rest) ← fixedDigits? 4 cs
  let dashes := charAt rest 0 (· = '-')
  let rest := if dashes then rest.drop 1 else rest
  match rest with
  | 'W' :: rest =>
    let (week, rest) ← fixedDigits? 2 rest
    if rest.isEmpty then Calendar.daysOfWeekDate? year week 1
    else
      let (day, rest) ← fixedDigits? 1 (← dash? dashes rest)
      guard rest.isEmpty
      Calendar.daysOfWeekDate? year week day
  | _ =>
    let (month, rest) ← fixedDigits? 2 rest
    let (day, rest) ← fixedDigits? 2 (← dash? dashes rest)
    guard rest.isEmpty
    let date : Calendar.Date := ⟨year, month, day⟩
    guard date.isValid
    return date.toDays

/-- The fields of a time of day, as written. -/
structure ClockFields where
  hour : Nat
  minute : Nat
  second : Nat
  micros : Nat
  deriving DecidableEq, Repr

/-- The microseconds that the fields add up to. -/
def ClockFields.toMicros (f : ClockFields) : Nat :=
  ((f.hour * 60 + f.minute) * 60 + f.second) * 1000000 + f.micros

/-- The fields name a time of day. -/
def ClockFields.isValid (f : ClockFields) : Bool :=
  f.hour ≤ 23 && f.minute ≤ 59 && f.second ≤ 59

/-- The microseconds of a fraction: its first six digits, zeros added to
fewer. Digits beyond are dropped; what follows them is left. -/
def fraction? (cs : List Char) : Option (Nat × List Char) :=
  let width := min cs.length 6
  if width = 0 then none
  else do
    let (n, rest) ← fixedDigits? width cs
    return (n * Nat.pow 10 (6 - width), rest.dropWhile Text.isAsciiDigit)

/-- How far the reading of a time got: the values of its two-digit
fields, its microseconds, and what was left. -/
structure ClockReading where
  fields : List Nat
  micros : Nat
  rest : List Char

/-- Read up to `more` further two-digit fields after those in `fields`.
One last character may follow a field, whatever it is in ASCII. -/
def clockFrom (colons : Bool) : Nat → List Nat → List Char → Option ClockReading
  | 0, fields, cs => do
    let (micros, rest) ← fraction? cs
    return ⟨fields, micros, rest⟩
  | more + 1, fields, cs => do
    let (n, rest) ← fixedDigits? 2 cs
    let fields := fields ++ [n]
    -- The character after the hour decides for the whole time.
    let colons := if fields.length = 1 then charAt rest 0 (· = ':') else colons
    match rest with
    | [] => return ⟨fields, 0, []⟩
    | c :: rest =>
      if rest.isEmpty && c.toNat < 0x80 then return ⟨fields, 0, [c]⟩
      else if colons && c = ':' then clockFrom colons more fields rest
      else if c = '.' || c = ',' then
        let (micros, rest) ← fraction? rest
        return ⟨fields, micros, rest⟩
      else if !colons then clockFrom colons more fields (c :: rest)
      else none

/-- The fields of a time, and what was left after them. -/
def clock? (cs : List Char) : Option (ClockFields × List Char) := do
  let reading ← clockFrom false 3 [] cs
  let field := fun i => (reading.fields[i]?).getD 0
  return (⟨field 0, field 1, field 2, reading.micros⟩, reading.rest)

/-- Nothing is left, or the left-over starts with the null character. -/
def isEnd (rest : List Char) : Bool :=
  match rest with
  | [] => true
  | c :: _ => c.toNat = 0

/-- A sign starts an offset. -/
def isSign (c : Char) : Bool := c = '+' || c = '-'

/-- The microseconds of an offset from its sign on. One whose whole
seconds are zero counts as none, and one of a day or more is no
offset. -/
def offset? (cs : List Char) : Option Int := do
  let (sign, rest) ← match cs with
    | c :: rest => some (c, rest)
    | [] => none
  let (fields, left) ← clock? rest
  guard (isEnd left)
  let micros := fields.toMicros
  -- A fraction of a second alone makes no offset.
  if micros < 1000000 then return 0
  else if DateTime.dayMicros ≤ micros then none
  else return if sign = '-' then -(micros : Int) else micros

/-- The microseconds of a time of day, and the offset if there is
one. -/
def time? (cs : List Char) : Option (Nat × Option Int) := do
  let front := cs.takeWhile fun c => !isSign c
  let back := cs.dropWhile fun c => !isSign c
  let (fields, left) ← clock? front
  guard fields.isValid
  if back.isEmpty then
    guard (isEnd left)
    return (fields.toMicros, none)
  else
    let offset ← offset? back
    return (fields.toMicros, some offset)

/-- A date, and perhaps a time after any one character. -/
def parse? (cs : List Char) : Option DateTime := do
  let length ← dateLength? cs
  let days ← days? (cs.take length)
  let (micros, offset) ← match cs.drop length with
    | [] => some (0, none)
    | _ :: rest => time? rest
  DateTime.of? ((days * DateTime.dayMicros + micros : Nat) : Int) offset

end QueryGuard.Iso
