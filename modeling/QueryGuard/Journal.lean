import QueryGuard.Log.Record
import QueryGuard.Verdict.Basic

/-!
# `QueryGuard.Journal`: what happens besides answering

Answering a query leaves records in the log and moves counters. Both
are kept in one row of events, in the order in which they happen; the
log and the counters are views of it.
-/

set_option autoImplicit false

namespace QueryGuard

/-- Something that happened besides answering. -/
inductive Event where
  /-- A record was written. -/
  | record (r : Log.Record)
  /-- A verdict was given. -/
  | verdict (safe : Bool) (rule : Option Rule)
  /-- A fetch from the backend ended, well or not. -/
  | fetch (provider : String)
  /-- A fetch from the backend failed. -/
  | fetchFailure (provider : String)

/-- Events in the order in which they happened. -/
abbrev Journal := List Event

namespace Journal

/-- The records among the events. -/
def records (journal : Journal) : List Log.Record :=
  journal.filterMap fun
    | .record r => some r
    | _ => none

/-- The records that matter as much as a threshold asks for. -/
def recordsFrom (threshold : Int) (journal : Journal) : List Log.Record :=
  journal.records.filter fun r => threshold ≤ r.level.severity

/-- The events of a request: its id goes into every record that has
none yet. -/
def under (request : Option String) (journal : Journal) : Journal :=
  journal.map fun
    | .record r => .record { r with request := r.request.or request }
    | e => e

end Journal

end QueryGuard
