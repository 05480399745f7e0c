import QueryGuard.Time.Timestamp

/-!
# `QueryGuard.Time.Range`: the window of a query

A range runs from a start to an end that is not before it. Bounds that
a user leaves out default to the present and to one hour before the
end.
-/

set_option autoImplicit false

namespace QueryGuard

/-- A window of time. -/
structure TimeRange where
  start : DateTime
  finish : DateTime
  ordered : finish.before? start = some false

namespace TimeRange

/-- The range between two bounds. -/
def between (start finish : DateTime) : Except TimeError TimeRange :=
  match h : finish.before? start with
  | some false => .ok ⟨start, finish, h⟩
  | some true => .error .endBeforeStart
  | none => .error .mixedOffsets

/-- The range of a length that ends now. -/
def last (window : Duration) (now : DateTime) : Except TimeError TimeRange :=
  match now.sub? window with
  | some start => between start now
  | none => .error .dateOutOfRange

/-- A text that was given and is not empty. -/
def given? (text : Option String) : Option String := text.filter (· != "")

/-- The range between two bounds that a user may leave out. -/
def parse (start finish : Option String) (now : DateTime) : Except TimeError TimeRange := do
  -- The end is read first: a start that is left out is reckoned back from it.
  let finish ← match given? finish with
    | some text => Timestamp.parse (some text) now
    | none => .ok now
  let start ← match given? start with
    | some text => Timestamp.parse (some text) now
    | none =>
      match finish.sub? Duration.hour with
      | some t => .ok t
      | none => .error .dateOutOfRange
  between start finish

/-- How long a range is. -/
def duration (r : TimeRange) : Duration := r.finish.since r.start

end TimeRange

end QueryGuard
