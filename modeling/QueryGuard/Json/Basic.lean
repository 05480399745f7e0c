import QueryGuard.Number.Numeral
import QueryGuard.Number.Shortest
import QueryGuard.Text.Wording

/-!
# `QueryGuard.Json.Basic`: documents

A document as the backend, the snapshot files and the service exchange
it. Whole numbers and fractions stay apart, and the fields of an object
keep the order in which they were first named.

Most documents consist of texts of characters. A text with halves of
pairs has a form of its own, and so has an object with such a name;
what an object has by a name or in all is asked of both forms at once.
-/

set_option autoImplicit false

namespace QueryGuard

/-- A document. -/
inductive Json where
  | null
  | bool (value : Bool)
  | number (value : Number)
  | string (value : String)
  /-- A text in which halves of pairs stand alone. -/
  | halved (value : Wording)
  | array (items : List Json)
  | object (fields : List (String × Json))
  /-- An object in which such a text is a name. -/
  | mixed (entries : List (Wording × Json))
  deriving Repr, Inhabited

/-- The named fields of an object, or of anything that is written as
one. -/
abbrev Fields (α : Type) := List (String × α)

namespace Fields

variable {κ α : Type} [DecidableEq κ]

/-- Set a field: a name already there keeps its place and takes the new
value, a new name goes to the end. -/
def set (fields : List (κ × α)) (name : κ) (value : α) : List (κ × α) :=
  match fields with
  | [] => [(name, value)]
  | (n, v) :: rest => if n = name then (n, value) :: rest else (n, v) :: set rest name value

/-- The fields of a row of settings, the last setting of a name
winning. -/
def ofList (settings : List (κ × α)) : List (κ × α) :=
  settings.foldl (fun fields s => set fields s.1 s.2) []

end Fields

namespace Json

/-- A whole number as a document. -/
def int (n : Int) : Json := .number (.int n)

/-- A text that may be missing, as a document. -/
def ofText? (text : Option String) : Json := (text.map Json.string).getD .null

/-- The document of a text. -/
def ofWording (w : Wording) : Json :=
  match w.plain? with
  | some s => .string s
  | none => .halved w

/-- The document of a text that may be missing. -/
def ofWording? (w : Option Wording) : Json := (w.map ofWording).getD .null

/-- The document of an object, by its entries. -/
def ofEntries (entries : List (Wording × Json)) : Json :=
  match entries.mapM fun e => e.1.plain?.map (·, e.2) with
  | some fields => .object fields
  | none => .mixed entries

/-- The entries of an object. -/
def entries? : Json → Option (List (Wording × Json))
  | .object fields => some (fields.map fun f => (f.1, f.2))
  | .mixed entries => some entries
  | _ => none

/-- The value of an object's field. -/
def field? (name : String) : Json → Option Json
  | .object fields => fields.lookup name
  | .mixed entries => entries.lookup (name : Wording)
  | _ => none

/-- The name of the kind of document, as messages give it. -/
def kindName : Json → String
  | .null => "NoneType"
  | .bool _ => "bool"
  | .number (.int _) => "int"
  | .number (.double _) => "float"
  | .string _ | .halved _ => "str"
  | .array _ => "list"
  | .object _ | .mixed _ => "dict"

end Json

/-- The text of a number inside a message. -/
def Number.text : Number → String
  | .int n => toString n
  | .double x => x.text

namespace Json

mutual

/-- A document quoted inside a message: texts in quotes, the three
named values capitalised, brackets and braces around the rest. -/
def literal : Json → String
  | .null => "None"
  | .bool true => "True"
  | .bool false => "False"
  | .number n => n.text
  | .string s => Text.quoted s
  | .halved w => w.quoted
  | .array items => "[" ++ literalItems items ++ "]"
  | .object fields => "\x7b" ++ literalFields fields ++ "\x7d"
  | .mixed entries => "\x7b" ++ literalEntries entries ++ "\x7d"

/-- The items of an array inside a message. -/
def literalItems : List Json → String
  | [] => ""
  | [item] => literal item
  | item :: rest => literal item ++ ", " ++ literalItems rest

/-- The fields of an object inside a message. -/
def literalFields : List (String × Json) → String
  | [] => ""
  | [(name, value)] => Text.quoted name ++ ": " ++ literal value
  | (name, value) :: rest =>
    Text.quoted name ++ ": " ++ literal value ++ ", " ++ literalFields rest

/-- The entries of an object inside a message. -/
def literalEntries : List (Wording × Json) → String
  | [] => ""
  | [(name, value)] => name.quoted ++ ": " ++ literal value
  | (name, value) :: rest => name.quoted ++ ": " ++ literal value ++ ", " ++ literalEntries rest

end

/-- A document shown in running text: a text as it is, anything else as
its literal. -/
def display : Json → Wording
  | .string s => s
  | .halved w => w
  | j => literal j

end Json

end QueryGuard
