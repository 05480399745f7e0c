import QueryGuard.Json.Basic
import QueryGuard.Time.DateTime

/-!
# `QueryGuard.Log.Value`: what a record may carry

A record carries values of more kinds than a document has. In a line of
the log each becomes a document: points in time as universal time, sets
as the sorted texts of their members, tuples as arrays, the keys of
maps as texts, and anything else as its text.
-/

set_option autoImplicit false

namespace QueryGuard.Log

/-- A value that a record carries. -/
inductive Value where
  | null
  | bool (value : Bool)
  | number (value : Number)
  | string (value : String)
  /-- A text in which halves of pairs stand alone. -/
  | halved (value : Wording)
  | list (items : List Value)
  | tuple (items : List Value)
  | set (frozen : Bool) (members : List Value)
  | map (entries : List (Value × Value))
  | time (value : DateTime)
  /-- Anything else, known by its text. -/
  | thing (text : String)
  deriving Inhabited

namespace Value

/-- A whole number as a value. -/
def int (n : Int) : Value := .number (.int n)

/-- The value of a text. -/
def ofWording (w : Wording) : Value :=
  match w.plain? with
  | some s => .string s
  | none => .halved w

/-- A text that may be missing, as a value. -/
def ofText? (text : Option String) : Value := (text.map Value.string).getD .null

/-- A number that may be missing, as a value. -/
def ofNumber? (n : Option Number) : Value := (n.map Value.number).getD .null

/-- The number zero. -/
def isZero : Number → Bool
  | .int n => n == 0
  | .double (.finite _ units) => units == 0
  | .double _ => false

/-- A value that counts as given: not nothing, not zero, not empty. -/
def isGiven : Value → Bool
  | .null => false
  | .bool b => b
  | .number n => !isZero n
  | .string s => s != ""
  | .halved _ => true
  | .list items => !items.isEmpty
  | .tuple items => !items.isEmpty
  | .set _ members => !members.isEmpty
  | .map entries => !entries.isEmpty
  | .time _ => true
  | .thing _ => true

/-- The name of the kind of value, as messages give it. -/
def kindName : Value → String
  | .null => "NoneType"
  | .bool _ => "bool"
  | .number (.int _) => "int"
  | .number (.double _) => "float"
  | .string _ | .halved _ => "str"
  | .list _ => "list"
  | .tuple _ => "tuple"
  | .set false _ => "set"
  | .set true _ => "frozenset"
  | .map _ => "dict"
  | .time _ => "datetime.datetime"
  | .thing _ => "object"

/-- The fields of a point in time inside the text of a container. -/
def timeLiteral (t : DateTime) : String :=
  let wall := t.wall.toNat
  let date := Calendar.Date.ofDays (wall / DateTime.dayMicros)
  let clock := wall % DateTime.dayMicros
  let seconds := clock / 1000000
  let fields := [date.year, date.month, date.day, seconds / 3600, seconds / 60 % 60]
  let fraction := clock % 1000000
  let rest := if fraction != 0 then [seconds % 60, fraction]
    else if seconds % 60 != 0 then [seconds % 60] else []
  let zone := match t.offset with
    | none => ""
    | some 0 => ", tzinfo=datetime.timezone.utc"
    | some offset =>
      let total := offset.fdiv 1000000
      let micros := offset.fmod 1000000
      let days := total.fdiv 86400
      let seconds := total.fmod 86400
      let parts := (if days = 0 then [] else [s!"days={days}"])
        ++ (if seconds = 0 then [] else [s!"seconds={seconds}"])
        ++ (if micros = 0 then [] else [s!"microseconds={micros}"])
      ", tzinfo=datetime.timezone(datetime.timedelta(" ++ ", ".intercalate parts ++ "))"
  "datetime.datetime(" ++ ", ".intercalate ((fields ++ rest).map toString) ++ zone ++ ")"

mutual

/-- The text of a value inside a container: texts in quotes, and the
brackets of each kind of container. -/
def literal : Value → String
  | .null => "None"
  | .bool true => "True"
  | .bool false => "False"
  | .number n => n.text
  | .string s => Text.quoted s
  | .halved w => w.quoted
  | .list items => "[" ++ ", ".intercalate (literals items) ++ "]"
  | .tuple [item] => "(" ++ literal item ++ ",)"
  | .tuple items => "(" ++ ", ".intercalate (literals items) ++ ")"
  | .set false [] => "set()"
  | .set false members => "\x7b" ++ ", ".intercalate (literals members) ++ "\x7d"
  | .set true [] => "frozenset()"
  | .set true members => "frozenset(\x7b" ++ ", ".intercalate (literals members) ++ "\x7d)"
  | .map entries => "\x7b" ++ ", ".intercalate (entryLiterals entries) ++ "\x7d"
  | .time t => timeLiteral t
  | .thing text => text

/-- The texts of the items of a container. -/
def literals : List Value → List String
  | [] => []
  | item :: rest => literal item :: literals rest

/-- The texts of the entries of a map. -/
def entryLiterals : List (Value × Value) → List String
  | [] => []
  | (key, v) :: rest => (literal key ++ ": " ++ literal v) :: entryLiterals rest

end

/-- The text of a value on its own: a text is itself, with its halves as
a stream shows them, and a point in time has a blank between date and
time. -/
def display : Value → String
  | .string s => s
  | .halved w => w.shown
  | .time t => t.isoText.map fun c => if c = 'T' then ' ' else c
  | v => literal v

/-- The size of a value that is a number, in units of the least
double. -/
def units? : Value → Option Int
  | .bool b => some (if b then Double.unitsPerOne else 0)
  | .number (.int n) => some (n * Double.unitsPerOne)
  | .number (.double x) => x.signedUnits?
  | _ => none

/-- A value that no other value is equal to. -/
def isUnique : Value → Bool
  | .number (.double .nan) => true
  | .thing _ => true
  | _ => false

/-- Two values count as one in a set and as a key. Numbers are compared
by their size, whatever their kinds. -/
def isSame (a b : Value) : Bool :=
  match a.units?, b.units? with
  | some x, some y => x = y
  | none, none => !a.isUnique && !b.isUnique && a.literal = b.literal
  | _, _ => false

/-- Entries with another one added: a key that is there keeps its place
and takes the new value. -/
def addEntry (key v : Value) : List (Value × Value) → List (Value × Value)
  | [] => [(key, v)]
  | (k, w) :: rest => if k.isSame key then (k, v) :: rest else (k, w) :: addEntry key v rest

/-- A map of entries, of which a later one counts. -/
def mapOf (entries : List (Value × Value)) : Value :=
  .map (entries.foldl (fun m e => addEntry e.1 e.2 m) [])

/-- A set of members. -/
def setOf (frozen : Bool) (members : List Value) : Value :=
  .set frozen (members.foldl (fun ms m => if ms.any (·.isSame m) then ms else ms ++ [m]) [])

mutual

/-- The document that stands for a value in a line of the log. -/
def toJson : Value → Json
  | .null => .null
  | .bool b => .bool b
  | .number n => .number n
  | .string s => .string s
  | .halved w => .halved w
  | .list items => .array (toJsons items)
  | .tuple items => .array (toJsons items)
  | .set _ members =>
    .array (((members.map display).mergeSort fun a b => a ≤ b).map Json.string)
  | .map entries => .object (Fields.ofList (toFields entries))
  | .time t => .string ((t.toUtc?).getD t).zuluText
  | .thing text => .string text

/-- The documents of the items of a container. -/
def toJsons : List Value → List Json
  | [] => []
  | item :: rest => toJson item :: toJsons rest

/-- The fields that stand for the entries of a map. -/
def toFields : List (Value × Value) → List (String × Json)
  | [] => []
  | (key, v) :: rest => (display key, toJson v) :: toFields rest

end

mutual

/-- Every point in time that the line would show is one of universal
time. -/
def isShowable : Value → Bool
  | .list items => areShowable items
  | .tuple items => areShowable items
  | .map entries => entriesShowable entries
  | .time t => t.toUtc?.isSome
  | _ => true

/-- All items of a container can be shown. -/
def areShowable : List Value → Bool
  | [] => true
  | item :: rest => isShowable item && areShowable rest

/-- All values of a map can be shown. -/
def entriesShowable : List (Value × Value) → Bool
  | [] => true
  | (_, v) :: rest => isShowable v && entriesShowable rest

end

end Value

end QueryGuard.Log
