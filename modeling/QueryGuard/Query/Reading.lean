import QueryGuard.Query.Node
import QueryGuard.Text.Wording

/-!
# `QueryGuard.Query.Reading`: from the text of a query to its tree

The grammar of queries is not part of this library: a parser is given,
and answers a text with a tree or with what is wrong with it. Neither a
text that is blank nor one with halves of pairs reaches the parser.
-/

set_option autoImplicit false

namespace QueryGuard

/-- A parser of queries: a tree, or what is wrong with the text. -/
abbrev QueryParser := String → Except String Node

/-- A query that has no tree. -/
structure QueryError where
  query : Wording
  detail : String
  deriving DecidableEq, Repr

/-- The wording of a query error. -/
def QueryError.message (e : QueryError) : String :=
  s!"{e.detail} in query: {e.query.quoted}"

/-- What is wrong with a blank query. -/
def emptyQuery : String := "empty query"

/-- The tree of a query. -/
def readQuery (parser : QueryParser) (query : Wording) : Except QueryError Node :=
  if query.isBlank then .error ⟨query, emptyQuery⟩
  else
    match query.plain? with
    | some text => (parser text).mapError (⟨query, ·⟩)
    | none => .error ⟨query, query.unsendable⟩

end QueryGuard
