import QueryGuard.Text.Case
import QueryGuard.Time.Iso

/-!
# `QueryGuard.Time.Timestamp`: the times that a user may give

A time is `NOW`, `NOW` with a duration before or after it, a date and
time with an offset, or Unix seconds. Relative times resolve against
the instant given; all others are read into universal time.
-/

set_option autoImplicit false

namespace QueryGuard.Timestamp

/-- The letters of the present. -/
def nowWord : List Char := ['N', 'O', 'W']

/-- Write every `Z` as the offset it stands for. -/
def expandZulu (cs : List Char) : List Char :=
  cs.flatMap fun c => if c = 'Z' then ['+', '0', '0', ':', '0', '0'] else [c]

/-- The rest after the fourth character, with that character, where it
is a sign. -/
def signedTail? (cs : List Char) : Option (Char × List Char) :=
  match cs.drop 3 with
  | c :: rest => if Iso.isSign c then some (c, rest) else none
  | [] => none

/-- A relative time: the present moved by a duration. A duration that
is refused, or too long to read, refuses the time. -/
def relative (text : Option String) (now : DateTime) (sign : Char) (tail : List Char) :
    Except TimeError DateTime :=
  match Duration.parse (some (String.ofList tail)) with
  | .error e =>
    match e with
    -- The sum of the seconds overflowed before the duration could be refused.
    | .numberTooLarge => .error e
    | _ => .error (.relativeOffset e.message)
  | .ok d =>
    match if sign = '-' then now.sub? d else now.add? d with
    | some t => .ok t
    | none => .error (.relativeOutOfRange text)

/-- The digits of Unix seconds and whether a minus stands before them. -/
def unixDigits? (cs : List Char) : Option (Bool × List Nat) :=
  let (negative, ds) := match cs with
    | '-' :: rest => (true, rest)
    | _ => (false, cs)
  if ds.isEmpty then none else (ds.mapM Text.digitValue?).map (negative, ·)

/-- Unix seconds. -/
def unix (text : Option String) (negative : Bool) (digits : List Nat) :
    Except TimeError DateTime :=
  match Numeral.ofDigits digits with
  | .error _ => .error (.unixOutOfRange text)
  | .ok n =>
    let seconds := if negative then -(n : Int) else n
    match DateTime.ofUnixMicros? (seconds * 1000000) with
    | some t => .ok t
    | none => .error (.unixOutOfRange text)

/-- A time that is not relative. A date counts only if a letter `T` is
somewhere in the text. -/
def absolute (text : Option String) (cs upper : List Char) : Except TimeError DateTime :=
  match if upper.contains 'T' then Iso.parse? (expandZulu cs) else none with
  | some t =>
    if t.offset.isNone then .error (.missingOffset text)
    else match t.toUtc? with
      | some t => .ok t
      | none => .error .dateOutOfRange
  | none =>
    match unixDigits? cs with
    | some (negative, digits) => unix text negative digits
    | none => .error .unrecognised

/-- Read a time. A missing text is read as an empty one. -/
def parse (text : Option String) (now : DateTime) : Except TimeError DateTime :=
  let cs := Text.trim (text.getD "").toList
  let upper := cs.flatMap Text.upperChar
  if upper = nowWord then .ok now
  else
    match if nowWord.isPrefixOf upper then signedTail? cs else none with
    | some (sign, tail) => relative text now sign tail
    | none => absolute text cs upper

end QueryGuard.Timestamp
