import QueryGuard.Log.Record
import QueryGuard.Log.Template

/-!
# `QueryGuard.Log.Root`: where records go

All records pass one threshold and go to one stream, in one of two
formats. The first setting holds until another one is forced. A record
whose message cannot be made, or whose fields cannot be shown, is
dropped: writing the log never breaks what is being logged.
-/

set_option autoImplicit false

namespace QueryGuard.Log

/-- Where the lines of records go, and how they look. -/
structure Handler (τ : Type) where
  /-- Lines are documents. -/
  json : Bool
  stream : τ
  deriving DecidableEq, Repr

/-- A handler can write a record. -/
def Handler.canWrite {τ : Type} (h : Handler τ) (r : Record) : Bool := !h.json || r.isShowable

/-- The threshold that a setting asks for. -/
inductive ThresholdSetting where
  | severity (n : Int)
  | name (text : String)
  /-- Anything else asks for nothing in particular. -/
  | other
  deriving DecidableEq, Repr

/-- The severity of a setting. -/
def ThresholdSetting.resolve : ThresholdSetting → Int
  | .severity n => n
  | .name text => Level.threshold text
  | .other => Level.info.severity

/-- The setting of the log. -/
structure Root (τ : Type) where
  threshold : Int := Level.warning.severity
  handler : Option (Handler τ) := none
  deriving DecidableEq, Repr

/-- A record before its message is made. -/
structure Entry where
  level : Level
  logger : String
  template : String
  args : List Value := []
  /-- The fields that the logger adds to all its records. -/
  bound : Fields Value := []
  extras : Fields Value := []
  request : Option String := none

/-- All fields of an entry; its own win over the logger's. -/
def Entry.fields (e : Entry) : Fields Value := mergeFields e.bound e.extras

/-- The record of an entry. -/
def Entry.record (e : Entry) : Except Template.TemplateError Record := do
  let message ← Template.render e.template e.args
  return {
    level := e.level, logger := e.logger, message := message, extras := e.fields,
    request := e.request }

/-- The line of a record in the plain format. -/
def Record.plainLine (r : Record) (stamp : String) : String :=
  stamp ++ " " ++ r.level.name ++ " " ++ r.logger ++ " " ++ r.message

namespace Root

variable {τ : Type}

/-- Set the log, unless it has been set before and this is not
forced. -/
def configure (root : Root τ) (threshold : ThresholdSetting) (handler : Handler τ)
    (force : Bool) : Root τ :=
  if root.handler.isSome && !force then root else ⟨threshold.resolve, some handler⟩

/-- A level passes the threshold. Records without a level never do. -/
def enables (root : Root τ) (level : Level) : Bool :=
  0 < level.severity && root.threshold ≤ level.severity

/-- Write an entry: the record that reaches a handler, if one does. An
entry that passes must not set a reserved field. -/
def emit (root : Root τ) (e : Entry) : Except ReservedField (Option (Handler τ × Record)) :=
  if root.enables e.level then
    match reservedField? e.fields with
    | some field => .error field
    | none =>
      match root.handler, e.record with
      | some h, .ok r => .ok (if h.canWrite r then some (h, r) else none)
      | _, _ => .ok none
  else .ok none

end Root

end QueryGuard.Log
