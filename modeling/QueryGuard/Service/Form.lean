import QueryGuard.Json.Decoder
import QueryGuard.Json.Truth

/-!
# `QueryGuard.Service.Form`: what a client asks

The body of a request for a validation is a form: a query, and texts
for the bounds of its time range and for the rules to apply, all of
which may be left out. A form that is not filled in right earns one
complaint for each fault: the declared fields come first, then the
fields that the form does not have. The texts of a form consist of
characters, so a text with halves of pairs is at fault.

A form is a document, and a body is read as one only if it is declared
to be one. Otherwise it is complained about as the bytes that it is.
-/

set_option autoImplicit false

namespace QueryGuard.Service

/-- What is wrong with a form or a field of it. -/
inductive Fault where
  | missing
  | notAText
  /-- A text with halves of pairs. -/
  | notUnicode
  | tooShort
  | unknownField
  | notAForm
  | unreadable
  deriving DecidableEq, Repr

/-- The code of a fault. -/
def Fault.code : Fault → String
  | .missing => "missing"
  | .notAText => "string_type"
  | .notUnicode => "string_unicode"
  | .tooShort => "string_too_short"
  | .unknownField => "extra_forbidden"
  | .notAForm => "model_attributes_type"
  | .unreadable => "json_invalid"

/-- Where in a body a fault lies. -/
inductive Place where
  /-- The body as a whole. -/
  | body
  | field (name : Wording)
  /-- So many characters from the start. -/
  | position (n : Nat)
  deriving DecidableEq, Repr

/-- The path to a place. -/
def Place.path : Place → List Json
  | .body => [.string "body"]
  | .field name => [.string "body", .ofWording name]
  | .position n => [.string "body", .int n]

/-- A fault, its place, and what was given there. -/
structure Complaint where
  place : Place
  fault : Fault
  given : Json

/-- A complaint as a document. -/
def Complaint.toJson (c : Complaint) : Json :=
  .object [("type", .string c.fault.code), ("loc", .array c.place.path), ("input", c.given)]

/-- A form that is filled in right. -/
structure Form where
  query : String
  start : Option String
  finish : Option String
  rules : Option String
  deriving DecidableEq, Repr

namespace Form

/-- The names of the form's fields. -/
def fieldNames : List String := ["query", "start", "end", "guardrails"]

/-- The form has a field of this name. -/
def isField (name : Wording) : Bool := fieldNames.any fun n => n = name

/-- The complaints about the query, which must be there and must not be
empty. -/
def queryFaults (j : Json) : List Complaint :=
  match j.field? "query" with
  | none => [⟨.field "query", .missing, j⟩]
  | some (.string s) => if s = "" then [⟨.field "query", .tooShort, .string s⟩] else []
  | some (.halved w) => [⟨.field "query", .notUnicode, .halved w⟩]
  | some v => [⟨.field "query", .notAText, v⟩]

/-- The complaints about a field that may be left out. -/
def optionalFaults (j : Json) (name : String) : List Complaint :=
  match j.field? name with
  | none | some .null | some (.string _) => []
  | some (.halved w) => [⟨.field name, .notUnicode, .halved w⟩]
  | some v => [⟨.field name, .notAText, v⟩]

/-- The complaints about fields that the form does not have. -/
def unknownFaults (entries : List (Wording × Json)) : List Complaint :=
  (entries.filter fun e => !isField e.1).map fun e => ⟨.field e.1, .unknownField, e.2⟩

/-- All complaints about an object, which has these entries. -/
def faults (j : Json) (entries : List (Wording × Json)) : List Complaint :=
  queryFaults j ++ optionalFaults j "start" ++ optionalFaults j "end"
    ++ optionalFaults j "guardrails" ++ unknownFaults entries

/-- The text of a field. -/
def text? (j : Json) (name : String) : Option String :=
  match j.field? name with
  | some (.string s) => some s
  | _ => none

/-- The complaint about a document that is no object. -/
def notAnObject : Json → Complaint
  | .null => ⟨.body, .missing, .null⟩
  | j => ⟨.body, .notAForm, j⟩

/-- Read a form, or list all that is wrong with it. -/
def ofJson (j : Json) : Except (List Complaint) Form :=
  match j.entries? with
  | some entries =>
    match faults j entries with
    | [] => .ok {
        query := (text? j "query").getD ""
        start := text? j "start"
        finish := text? j "end"
        rules := text? j "guardrails" }
    | complaints => .error complaints
  | none => .error [notAnObject j]

/-- How reading a body ends. -/
inductive Reading where
  | form (f : Form)
  | complaints (cs : List Complaint)
  /-- There is a complaint about the body as a whole, which is not
  declared to be a document. -/
  | undeclared
  /-- The body cannot be read, for a reason that has no place in it. -/
  | unreadable

/-- Read the body of a request, which may be declared to be a document.
No body at all is a missing form. -/
def read (declared : Bool) (body : String) : Reading :=
  if body = "" then .complaints [⟨.body, .missing, .null⟩]
  else if !declared then .undeclared
  else
    match Json.decodeBody body with
    | .error (.malformed _ position _ _) =>
      .complaints [⟨.position position, .unreadable, .object []⟩]
    | .error (.numberTooLong _) => .unreadable
    | .ok j =>
      match ofJson j with
      | .ok form => .form form
      | .error complaints => .complaints complaints

end Form

end QueryGuard.Service
