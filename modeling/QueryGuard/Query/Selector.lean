import QueryGuard.Query.Matcher
import QueryGuard.Text.Ascending

/-!
# `QueryGuard.Query.Selector`: what a query reads

A selector names a metric and narrows its series by matchers. Matchers
of alternative groups count like the others: they are flattened into
one list, the plain ones first.
-/

set_option autoImplicit false

namespace QueryGuard

/-- A selector as a syntax tree carries it. -/
structure SelectorNode where
  /-- The name in front of the matchers, empty if there is none. -/
  name : String
  matchers : List MatcherNode
  /-- Alternative groups of matchers. -/
  groups : List (List MatcherNode)
  deriving DecidableEq, Repr

/-- A selector whose comparisons are settled. -/
structure Selector where
  name : String
  matchers : List Matcher
  deriving DecidableEq, Repr

/-- All matchers of a node, the plain ones first. -/
def SelectorNode.allMatchers (s : SelectorNode) : List MatcherNode :=
  s.matchers ++ s.groups.flatten

/-- The selector of a node. -/
def SelectorNode.resolve (s : SelectorNode) : Except UnsupportedOperator Selector := do
  let matchers ← s.allMatchers.mapM MatcherNode.resolve
  return ⟨s.name, matchers⟩

namespace Selector

/-- The metrics that a selector refers to: its name, and each value
that a matcher fixes the name to. -/
def metrics (s : Selector) : List String :=
  (if s.name = "" then [] else [s.name]) ++ (s.matchers.filter Matcher.fixesName).map (·.value)

/-- The labels of a selector's matchers, the one for the name aside. -/
def labels (s : Selector) : List String :=
  (s.matchers.filter fun m => !m.isOnName).map (·.label)

/-- The labels that a selector compares with a blanket pattern. -/
def blanketLabels (s : Selector) : List String :=
  (s.matchers.filter Matcher.isBlanket).map (·.label)

/-- What stands in a message for a selector without any name. -/
def unnamed : String := "<unnamed selector>"

/-- The name of a selector in messages: its own, or else the first one
that a matcher fixes. -/
def displayName (s : Selector) : String :=
  if s.name = "" then
    match s.matchers.find? Matcher.fixesName with
    | some m => m.value
    | none => unnamed
  else s.name

end Selector

/-- The metrics that a row of selectors refers to, in order. -/
def metricNames (selectors : List Selector) : List String :=
  Text.ascending (selectors.flatMap Selector.metrics)

/-- The labels that a row of selectors matches on, in order. -/
def labelNames (selectors : List Selector) : List String :=
  Text.ascending (selectors.flatMap Selector.labels)

/-- The labels that a row of selectors compares with a blanket pattern,
in order. -/
def blanketLabelNames (selectors : List Selector) : List String :=
  Text.ascending (selectors.flatMap Selector.blanketLabels)

end QueryGuard
