import QueryGuard.Number.Numeral
import QueryGuard.Text.Quoted

/-!
# `QueryGuard.Time.Error`: why a duration, a time or a range is refused

Most causes are the user's: they refuse a text and name it. Four others
are limits of the arithmetic below; `TimeError.isRefusal` tells the two
kinds apart, and the service and the command line answer them
differently.
-/

set_option autoImplicit false

namespace QueryGuard

/-- The text of an argument inside a message. -/
def argumentLiteral : Option String → String
  | some text => Text.quoted text
  | none => "None"

/-- Why no duration, time or range came about. -/
inductive TimeError where
  /-- Not a duration. -/
  | invalidDuration (text : Option String)
  /-- A duration of a thousand million days or more. -/
  | durationTooLarge (text : Option String)
  /-- The offset of a relative time is refused. -/
  | relativeOffset (reason : String)
  /-- A relative time that leaves the calendar. -/
  | relativeOutOfRange (text : Option String)
  /-- A date and time without an offset. -/
  | missingOffset (text : Option String)
  /-- Unix seconds that leave the calendar. -/
  | unixOutOfRange (text : Option String)
  /-- None of the forms of a time. -/
  | unrecognised
  /-- A range that ends before it starts. -/
  | endBeforeStart
  /-- A whole number of too many digits. -/
  | numeralTooLong (digits : Nat)
  /-- A whole number beyond the finite doubles. -/
  | numberTooLarge
  /-- A date that leaves the calendar. -/
  | dateOutOfRange
  /-- A comparison of a time with an offset and one without. -/
  | mixedOffsets
  deriving DecidableEq, Repr

namespace TimeError

/-- The user's text is at fault. -/
def isRefusal : TimeError → Bool
  | .numeralTooLong _ | .numberTooLarge | .dateOutOfRange | .mixedOffsets => false
  | _ => true

/-- The wording of each cause. -/
def message : TimeError → String
  | .invalidDuration text => s!"invalid duration {argumentLiteral text}"
  | .durationTooLarge text => s!"duration {argumentLiteral text} is too large"
  | .relativeOffset reason => s!"invalid duration in relative time expression: {reason}"
  | .relativeOutOfRange text => s!"relative time {argumentLiteral text} is out of range"
  | .missingOffset text => s!"timestamp {argumentLiteral text} is missing a timezone offset"
  | .unixOutOfRange text => s!"unix timestamp {argumentLiteral text} is out of range"
  | .unrecognised =>
    "timestamp must be RFC3339 format, Unix timestamp, NOW, or relative time (NOW±duration)"
  | .endBeforeStart => "time range end must not be before start"
  | .numeralTooLong digits => Numeral.tooLongMessage digits
  | .numberTooLarge => "int too large to convert to float"
  | .dateOutOfRange => "date value out of range"
  | .mixedOffsets => "can't compare offset-naive and offset-aware datetimes"

/-- The kind of failure that an error counts as where it is not
expected. -/
def kind : TimeError → String
  | .numeralTooLong _ => "ValueError"
  | .numberTooLarge | .dateOutOfRange => "OverflowError"
  | .mixedOffsets => "TypeError"
  | _ => "InvalidTimeRange"

end TimeError

end QueryGuard
