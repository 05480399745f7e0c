import QueryGuard.Json.Basic
import QueryGuard.Query.Reading

/-!
# `QueryGuard.Query.Tree`: syntax trees as documents

A parser outside this library hands its trees over as documents. A node
is an object that names its kind; its other fields hold nodes, and the
field of arguments a row of them. What holds no node is left out.
-/

set_option autoImplicit false

namespace QueryGuard

/-- The text of a document, empty for anything but a text. -/
def Json.textOrEmpty : Json → String
  | .string s => s
  | _ => ""

/-- The items of a document, none for anything but an array. -/
def Json.itemsOrNone : Json → List Json
  | .array items => items
  | _ => []

/-- The names of comparisons that have been settled before. -/
def settledNames : List (String × MatchOp) :=
  [("EQUAL", .equal), ("NOT_EQUAL", .notEqual), ("REGEX", .regex), ("NOT_REGEX", .notRegex)]

/-- The comparison of a document: a name, or one that is settled under
either of two kinds of names. -/
def OperatorToken.ofJson : Json → OperatorToken
  | .string s => .name s
  | .object fields =>
    match fields.lookup "enum", fields.lookup "parser" with
    | some j, _ => ((settledNames.lookup j.textOrEmpty).map .settled).getD .missing
    | none, some j =>
      ((MatchOp.all.find? (·.treeName = j.textOrEmpty)).map .settled).getD .missing
    | none, none => .missing
  | _ => .missing

/-- The matcher of a document: label, comparison and value. -/
def MatcherNode.ofJson? : Json → Option MatcherNode
  | .array [label, op, value] => some ⟨label.textOrEmpty, .ofJson op, value.textOrEmpty⟩
  | _ => none

/-- The matchers of a document. -/
def matchersOf (j : Json) : List MatcherNode := j.itemsOrNone.filterMap MatcherNode.ofJson?

/-- The selector of the fields of a node. Its matchers are one row, or
a row and alternative groups beside it. -/
def SelectorNode.ofFields (fields : Fields Json) : SelectorNode :=
  let name := ((fields.lookup "name").getD .null).textOrEmpty
  match fields.lookup "matchers" with
  | some (.object parts) =>
    ⟨name, matchersOf ((parts.lookup "matchers").getD .null),
      ((parts.lookup "or_matchers").getD .null).itemsOrNone.map matchersOf⟩
  | some j => ⟨name, matchersOf j, []⟩
  | none => ⟨name, [], []⟩

/-- The field of a node's kind. -/
def kindField : String := "kind"

/-- The field of a node's arguments. -/
def argumentsField : String := "args"

namespace Node

mutual

/-- The node of a document. -/
def ofJson? : Json → Option Node
  | .object fields =>
    match fields.lookup kindField with
    | some (.string kind) =>
      if kind = selectorKind then some (.selector (.ofFields fields))
      else some (.inner kind (fieldNodes fields) (argumentNodes fields))
    | _ => none
  | _ => none

/-- The nodes that fields hold, with the names of the fields. -/
def fieldNodes : List (String × Json) → List (String × Node)
  | [] => []
  | (name, v) :: rest =>
    match ofJson? v with
    | some n => (name, n) :: fieldNodes rest
    | none => fieldNodes rest

/-- The nodes in the rows of arguments among fields. -/
def argumentNodes : List (String × Json) → List Node
  | [] => []
  | (name, v) :: rest =>
    match v with
    | .array items => if name = argumentsField then rowNodes items else argumentNodes rest
    | _ => argumentNodes rest

/-- The nodes in a row. -/
def rowNodes : List Json → List Node
  | [] => []
  | item :: rest =>
    match ofJson? item with
    | some n => n :: rowNodes rest
    | none => rowNodes rest

end

end Node

/-- What a parser's answer says: a tree, or what is wrong with the
query. -/
def readAnswer (answer : Json) : Except String Node :=
  match answer.field? "syntax_error" with
  | some detail => .error detail.textOrEmpty
  | none =>
    match (answer.field? "ast").bind Node.ofJson? with
    | some n => .ok n
    | none => .error "no syntax tree"

end QueryGuard
