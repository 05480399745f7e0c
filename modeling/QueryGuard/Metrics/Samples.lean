import QueryGuard.Journal
import QueryGuard.Number.Shortest

/-!
# `QueryGuard.Metrics.Samples`: the counters of a journal

Three counters are kept: verdicts by outcome and rule, fetches, and
fetches that failed, both by provider. Their samples are counted from
the events; a sample appears when it is first moved.
-/

set_option autoImplicit false

namespace QueryGuard

/-- One value of a counter. -/
structure Sample where
  name : String
  labels : Fields String
  value : Nat
  deriving DecidableEq, Repr

namespace Journal

/-- The counter of verdicts. -/
def verdictCounter : String := "promguard_verdicts_total"

/-- The counter of fetches. -/
def fetchCounter : String := "promguard_metadata_fetch_seconds_count"

/-- The counter of failed fetches. -/
def failureCounter : String := "promguard_metadata_fetch_errors_total"

/-- The labels of a verdict's sample. -/
def verdictLabels (safe : Bool) (rule : Option Rule) : Fields String :=
  [("outcome", if safe then "safe" else "unsafe"), ("rule", (rule.map Rule.name).getD "none")]

/-- The counter and the labels that an event moves. -/
def moved? : Event → Option (String × Fields String)
  | .record _ => none
  | .verdict safe rule => some (verdictCounter, verdictLabels safe rule)
  | .fetch provider => some (fetchCounter, [("provider", provider)])
  | .fetchFailure provider => some (failureCounter, [("provider", provider)])

/-- How often a sample was moved. -/
def count (journal : Journal) (name : String) (labels : Fields String) : Nat :=
  (journal.filterMap moved?).count (name, labels)

/-- The label sets of a counter in the order of their first use. -/
def labelSets (journal : Journal) (name : String) : List (Fields String) :=
  (((journal.filterMap moved?).filter (·.1 = name)).map (·.2)).eraseDups

/-- The samples of a counter. -/
def samplesOf (journal : Journal) (name : String) : List Sample :=
  (journal.labelSets name).map fun labels => ⟨name, labels, journal.count name labels⟩

/-- The samples of all counters. -/
def samples (journal : Journal) : List Sample :=
  [verdictCounter, fetchCounter, failureCounter].flatMap journal.samplesOf

end Journal

namespace Sample

/-- One character inside the value of a label. -/
def escapedChar (c : Char) : List Char :=
  if c = '\\' then ['\\', '\\'] else if c = '"' then ['\\', '"']
  else if c = '\n' then ['\\', 'n'] else [c]

/-- A label and its value. -/
def labelText (label : String × String) : String :=
  label.1 ++ "=\"" ++ String.ofList (label.2.toList.flatMap escapedChar) ++ "\""

/-- The line of a sample. -/
def line (s : Sample) : String :=
  s.name ++ "\x7b" ++ ",".intercalate (s.labels.map labelText) ++ "\x7d "
    ++ (Double.ofInt s.value).text

end Sample

end QueryGuard
