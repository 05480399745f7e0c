import QueryGuard.Json.Truth
import QueryGuard.Metadata.Snapshot

/-!
# `QueryGuard.Metadata.Tsdb`: the statistics of a time series database

The status document of a time series database lists series by metric
and values by label as named entries. Counts may come as numbers or as
texts; the last entry of a name counts.
-/

set_option autoImplicit false

namespace QueryGuard

/-- Why a status document gives no snapshot. -/
inductive TsdbError where
  | notAnObject
  | failed (status error : Json)
  | noData
  | notAList (field : String)
  | malformedEntry (field : String)
  | notNumeric (name : Json) (field : String)
  /-- An infinite count. -/
  | infinite

namespace TsdbError

/-- The wording of a status error. The backend's own words are part of
one of them, and may hold anything. -/
def message : TsdbError → Wording
  | .notAnObject => "TSDB status response is not a JSON object"
  | .failed status error =>
    "TSDB status request failed (" ++ status.display ++ "): " ++ error.display
  | .noData => "TSDB status response has no data object"
  | .notAList field => s!"TSDB status field {Text.quoted field} is not a list"
  | .malformedEntry field => s!"malformed entry in TSDB status field {Text.quoted field}"
  | .notNumeric name field => s!"non-numeric value for {name.literal} in {Text.quoted field}"
  | .infinite => "cannot convert float infinity to integer"

/-- The document is at fault, and the backend counts as unavailable. -/
def isUnavailable : TsdbError → Bool
  | .infinite => false
  | _ => true

end TsdbError

namespace Tsdb

/-- The field of the series by metric. -/
def seriesField : String := "seriesCountByMetricName"

/-- The field of the values by label. -/
def labelsField : String := "labelValueCountByLabelName"

/-- What a count turns out to be. -/
inductive CountReading where
  | count (n : Int)
  | notNumeric
  | infinite
  deriving DecidableEq, Repr

/-- The count that a document gives: a number without its fraction, or
a text that writes a whole number. -/
def readCount : Json → CountReading
  | .bool b => .count (if b then 1 else 0)
  | .number (.int n) => .count n
  | .number (.double (.infinite _)) => .infinite
  | .number (.double x) =>
    match x.truncate? with
    | some n => .count n
    | none => .notNumeric
  | .string s =>
    match Numeral.readInt s with
    | .ok n => .count n
    | .error _ => .notNumeric
  | _ => .notNumeric

/-- The counts of a row of entries, added to those before. -/
def addEntries (field : String) (counts : Counts) : List Json → Except TsdbError Counts
  | [] => .ok counts
  | entry :: rest =>
    match entry.field? "name" with
    | none => .error (.malformedEntry field)
    | some name =>
      match readCount ((entry.field? "value").getD (.int 0)) with
      -- A name need not be a text: any document is shown as one.
      | .count n => addEntries field (counts.insert name.display n) rest
      | .notNumeric => .error (.notNumeric name field)
      | .infinite => .error .infinite

/-- The counts of a statistic, which may be missing. -/
def statistic (field : String) : Option Json → Except TsdbError Counts
  | none | some .null => .ok Counts.empty
  | some (.array entries) => addEntries field Counts.empty entries
  | some _ => .error (.notAList field)

/-- The error that a failed request names. -/
def errorNamed (payload : Json) : Json :=
  match payload.field? "error" with
  | some e => if e.isGiven then e else .string "unknown error"
  | none => .string "unknown error"

/-- The request was answered in full. -/
def isSuccess : Json → Bool
  | .string s => s = "success"
  | _ => false

/-- The snapshot that a status document gives. -/
def snapshot (payload : Json) : Except TsdbError Snapshot :=
  match payload.entries? with
  | some _ =>
    let status := (payload.field? "status").getD .null
    if !isSuccess status then .error (.failed status (errorNamed payload))
    else
      let data := (payload.field? "data").getD .null
      match data.entries? with
      | some _ => do
        let series ← statistic seriesField (data.field? seriesField)
        let labels ← statistic labelsField (data.field? labelsField)
        return ⟨series, labels⟩
      | none => .error .noData
  | none => .error .notAnObject

end Tsdb

end QueryGuard
