import QueryGuard.Text.Quoted
import QueryGuard.Text.Split

/-!
# `QueryGuard.Query.Matcher`: conditions on labels

A matcher compares the value of one label. A syntax tree names the
comparison in one of several ways; `OperatorToken.resolve` settles on
one of the four, or says which name it does not know.
-/

set_option autoImplicit false

namespace QueryGuard

/-- The comparisons of a matcher. -/
inductive MatchOp where
  | equal
  | notEqual
  | regex
  | notRegex
  deriving DecidableEq, Repr

namespace MatchOp

/-- All comparisons. -/
def all : List MatchOp := [.equal, .notEqual, .regex, .notRegex]

/-- How a query writes a comparison. -/
def symbol : MatchOp → String
  | .equal => "="
  | .notEqual => "!="
  | .regex => "=~"
  | .notRegex => "!~"

/-- What a syntax tree calls a comparison. -/
def treeName : MatchOp → String
  | .equal => "Equal"
  | .notEqual => "NotEqual"
  | .regex => "Re"
  | .notRegex => "NotRe"

/-- The comparison of a symbol. -/
def ofSymbol? (symbol : String) : Option MatchOp := all.find? (·.symbol = symbol)

/-- The value is a regular expression. -/
def isRegex : MatchOp → Bool
  | .regex | .notRegex => true
  | _ => false

end MatchOp

/-- The comparison as a syntax tree carries it. -/
inductive OperatorToken where
  /-- One of the four, already settled. -/
  | settled (op : MatchOp)
  /-- A name, perhaps after the name of its type and a point. -/
  | name (text : String)
  /-- Nothing at all. -/
  | missing
  deriving DecidableEq, Repr

/-- A comparison that is none of the four. -/
structure UnsupportedOperator where
  token : OperatorToken
  deriving DecidableEq, Repr

namespace OperatorToken

/-- A token inside a message. -/
def literal : OperatorToken → String
  | .settled op => op.symbol
  | .name text => Text.quoted text
  | .missing => "None"

/-- The comparison of a name or a symbol. -/
def ofName? (name : String) : Option MatchOp :=
  MatchOp.all.find? fun op => name = op.treeName || name = op.symbol

/-- The comparison that a token stands for. -/
def resolve (token : OperatorToken) : Except UnsupportedOperator MatchOp :=
  match token with
  | .settled op => .ok op
  | .name text =>
    match ofName? (String.ofList (Text.afterLast '.' text.toList)) with
    | some op => .ok op
    | none => .error ⟨token⟩
  | .missing => .error ⟨token⟩

end OperatorToken

/-- The wording for an unknown comparison. -/
def UnsupportedOperator.message (e : UnsupportedOperator) : String :=
  s!"unsupported label match operator: {e.token.literal}"

/-- A matcher as a syntax tree carries it. -/
structure MatcherNode where
  label : String
  operator : OperatorToken
  value : String
  deriving DecidableEq, Repr

/-- A condition on the value of a label. -/
structure Matcher where
  label : String
  op : MatchOp
  value : String
  deriving DecidableEq, Repr

/-- The matcher of a node. -/
def MatcherNode.resolve (m : MatcherNode) : Except UnsupportedOperator Matcher := do
  let op ← m.operator.resolve
  return ⟨m.label, op, m.value⟩

namespace Matcher

/-- The label that holds the name of the metric. -/
def nameLabel : String := "__name__"

/-- The regular expressions that all values match, or all but the empty
one. -/
def blanketPatterns : List String := [".*", ".+"]

/-- The matcher is about the name of the metric. -/
def isOnName (m : Matcher) : Bool := m.label = nameLabel

/-- The matcher fixes the name of the metric. -/
def fixesName (m : Matcher) : Bool := m.isOnName && m.op = .equal

/-- The value is a regular expression. -/
def isRegex (m : Matcher) : Bool := m.op.isRegex

/-- The matcher compares with a blanket pattern. -/
def isBlanket (m : Matcher) : Bool := m.isRegex && blanketPatterns.contains m.value

end Matcher

end QueryGuard
