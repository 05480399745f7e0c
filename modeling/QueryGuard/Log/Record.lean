import QueryGuard.Json.Encoder
import QueryGuard.Log.Level
import QueryGuard.Log.Value

/-!
# `QueryGuard.Log.Record`: records and their lines

A record has a level, a logger, a message, and whatever else its author
wants known. Its line is one document: the core fields first, the
request it belongs to, the author's fields in their order, and the
failure it reports. No author's field can take the place of a core
field.
-/

set_option autoImplicit false

namespace QueryGuard.Log

/-- A failure that a record reports: its kind, and its text if it has
one. -/
structure Failure where
  kind : String
  text : Wording
  deriving DecidableEq, Repr

/-- The text of a failure. -/
def Failure.describe (f : Failure) : Wording :=
  if f.text = "" then f.kind else f.kind ++ ": " ++ f.text

/-- A record of the log. -/
structure Record where
  level : Level
  logger : String
  message : String
  /-- The author's fields. -/
  extras : Fields Value := []
  failure : Option Failure := none
  /-- The request that was being served. -/
  request : Option String := none

/-- The names that every record uses for itself. -/
def ownNames : List String :=
  ["name", "msg", "args", "levelname", "levelno", "pathname", "filename", "module", "exc_info",
    "exc_text", "stack_info", "lineno", "funcName", "created", "msecs", "relativeCreated",
    "thread", "threadName", "processName", "process"]

/-- The names that a finished record uses for itself. -/
def reservedNames : List String := ownNames ++ ["message", "asctime"]

/-- A field that an author must not set. -/
structure ReservedField where
  name : String
  deriving DecidableEq, Repr

/-- The wording for a reserved field. -/
def ReservedField.message (e : ReservedField) : String :=
  s!"Attempt to overwrite {Text.quoted e.name} in LogRecord"

/-- The first of an author's fields that is reserved. -/
def reservedField? (extras : Fields Value) : Option ReservedField :=
  (extras.find? fun f => reservedNames.contains f.1).map fun f => ⟨f.1⟩

/-- Fields with others added; the others win. -/
def mergeFields (bound extras : Fields Value) : Fields Value :=
  extras.foldl (fun fields f => Fields.set fields f.1 f.2) bound

namespace Record

/-- The field of the request. -/
def requestField : String := "request_id"

/-- The field of the failure. -/
def failureField : String := "exc_info"

/-- The request named in a line: the author's own, or else the one
being served. -/
def requestShown? (r : Record) : Option Json :=
  match r.extras.lookup requestField with
  | some own =>
    -- An id that says nothing gives way here, and is shown among the author's fields.
    if own.isGiven then some own.toJson else (r.request.filter (· != "")).map Json.string
  | none => (r.request.filter (· != "")).map Json.string

/-- The fields of a line that an author cannot change. -/
def coreFields (r : Record) (stamp : String) : Fields Json :=
  [("ts", .string stamp), ("level", .string r.level.name), ("logger", .string r.logger),
    ("message", .string r.message)]
  ++ ((r.requestShown?).map fun id => (requestField, id)).toList

/-- An author's field is shown if its name is neither a record's own,
nor private, nor taken. -/
def isShown (taken : Fields Json) (name : String) : Bool :=
  !reservedNames.contains name && !name.startsWith "_" && !(taken.any fun f => f.1 = name)

/-- The fields of a line with the author's added one by one. -/
def addExtras (taken : Fields Json) : Fields Value → Fields Json
  | [] => taken
  | (name, v) :: rest =>
    if isShown taken name then addExtras (taken ++ [(name, v.toJson)]) rest
    else addExtras taken rest

/-- The fields of a line. -/
def lineFields (r : Record) (stamp : String) : Fields Json :=
  addExtras (r.coreFields stamp) r.extras
    ++ ((r.failure).map fun f => (failureField, Json.ofWording f.describe)).toList

/-- The line of a record made at a given time. -/
def line (r : Record) (stamp : String) : String :=
  Json.encode .line (.object (r.lineFields stamp))

/-- Every author's field that is shown can be. -/
def isShowable (r : Record) : Bool :=
  r.extras.all fun f => !isShown (r.coreFields "") f.1 || f.2.isShowable

/-- The text of the time at which a record was made, in Unix seconds,
rounded to microseconds. -/
def stamp? (created : Number) : Option String :=
  let micros? := match created with
    | .int n => some (n * 1000000)
    | .double x => x.toMicroseconds?
  (micros?.bind DateTime.ofUnixMicros?).map DateTime.zuluText

end Record

end QueryGuard.Log
