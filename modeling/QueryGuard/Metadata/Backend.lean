import QueryGuard.Json.Decoder
import QueryGuard.Metadata.Fetch
import QueryGuard.Metadata.Tsdb
import QueryGuard.Text.Split

/-!
# `QueryGuard.Metadata.Backend`: snapshots from a database

A backend is asked for its status over a transport that is given. Every
fetch is counted, and so is every one that fails. An answer outside the
range of success, a broken transport, and a body that is no status
document all count as an unavailable backend.
-/

set_option autoImplicit false

namespace QueryGuard

namespace Backend

/-- The path of the status document. -/
def statusPath : String := "/api/v1/status/tsdb"

/-- The most entries of a statistic that are asked for by default. -/
def defaultLimit : Int := 10000

/-- The name that backends have in records and counters. -/
def providerName : String := "prometheus"

/-- How a backend is reached. -/
structure Config where
  baseUrl : String
  token : Option String := none
  timeout : Number := .double (.ofInt 30)
  verifyTls : Bool := true
  /-- Entries asked for; the backend decides if there is none. -/
  limit : Option Int := some defaultLimit

/-- The base address without the slashes at its end. -/
def Config.base (c : Config) : String :=
  String.ofList (c.baseUrl.toList.reverse.dropWhile (· = '/')).reverse

/-- The headers of a request. -/
def Config.headers (c : Config) : Fields String :=
  ("Accept", "application/json") ::
    match c.token with
    | some token => if token = "" then [] else [("Authorization", "Bearer " ++ token)]
    | none => []

/-- The parameters of a request. -/
def Config.params (c : Config) : Fields String :=
  match c.limit with
  | some n => if n = 0 then [] else [("limit", toString n)]
  | none => []

/-- A request for the status document. -/
structure Request where
  url : String
  params : Fields String
  headers : Fields String
  deriving DecidableEq

/-- The request that a backend is sent. -/
def Config.request (c : Config) : Request := ⟨c.base ++ statusPath, c.params, c.headers⟩

/-- What a transport brings back. -/
inductive Delivery where
  /-- An answer of the backend. -/
  | response (status : Int) (body : String)
  /-- No answer, for a reason. -/
  | broken (reason : String)
  deriving DecidableEq

/-- A way to send requests, in a world of states. -/
abbrev Transport (σ : Type) := Request → σ → Delivery × σ

/-- A record of a backend. -/
def record (c : Config) (level : Log.Level) (message : String) (extras : Fields Log.Value) :
    Log.Record where
  level := level
  logger := "promguard.metadata.prometheus"
  message := message
  extras := [("provider", .string providerName), ("backend", .string c.base)] ++ extras

/-- The record that opens a fetch for a range. -/
def rangeRecord (c : Config) (range : TimeRange) : Log.Record :=
  record c .debug "fetching TSDB stats"
    [("start", .time range.start), ("end", .time range.finish),
      ("window_s", .number (.double range.duration.toSeconds))]

/-- The record that closes a fetch. -/
def fetchedRecord (c : Config) (s : Snapshot) : Log.Record :=
  record c .debug "fetched TSDB stats"
    [("metrics", .int s.series.size), ("labels", .int s.labels.size)]

/-- How reading a body ends. -/
def readBody (body : String) : Reply Snapshot :=
  match Json.decodeBody body with
  | .error e => .failure (.unavailable s!"invalid TSDB status response: {e.message}")
  | .ok payload =>
    match Tsdb.snapshot payload with
    | .ok s => .value s
    | .error e =>
      if e.isUnavailable then .failure (.unavailable e.message)
      else .failure (.fault ⟨"OverflowError", e.message⟩)

/-- An answer in the range of success. -/
def isSuccess (status : Int) : Bool := 200 ≤ status && status ≤ 299

/-- How a fetch ends, and the records that it writes besides. -/
def receive (c : Config) : Delivery → Reply Snapshot × List Log.Record
  | .broken reason =>
    (.failure (.unavailable s!"cannot reach metrics backend: {reason}"),
      [record c .warning "TSDB status request failed" [("error", .string reason)]])
  | .response status body =>
    if isSuccess status then
      match readBody body with
      | .value s => (.value s, [])
      | reply => (reply, [])
    else
      (.failure (.unavailable s!"metrics backend answered HTTP {status} for {statusPath}"),
        [record c .warning "TSDB status request rejected" [("status_code", .int status)]])

/-- The events of a fetch that ended: a failure of the backend is
counted before it is written down, and the fetch is counted always. -/
def closing (c : Config) (reply : Reply Snapshot) (records : List Log.Record) : Journal :=
  let written := records.map Event.record
  match reply with
  | .value s => written ++ [.fetch providerName, .record (fetchedRecord c s)]
  | .failure (.unavailable _) =>
    .fetchFailure providerName :: written ++ [.fetch providerName]
  | _ => written ++ [.fetch providerName]

/-- The provider that asks a backend over a transport. -/
def provider {σ : Type} (c : Config) (transport : Transport σ) : Provider σ :=
  fun range s =>
    let (delivery, s) := transport c.request s
    let (reply, records) := receive c delivery
    let opening := (range.map fun r => Event.record (rangeRecord c r)).toList
    ⟨reply, opening ++ closing c reply records, s⟩

end Backend

end QueryGuard
