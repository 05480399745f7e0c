import QueryGuard.Metadata.Snapshot
import QueryGuard.Policy.Basic
import QueryGuard.Query.Node
import QueryGuard.Verdict.Basic

/-!
# `QueryGuard.Assessment`: the rules, applied to what a query reads

Each rule looks at names in a given order, or at selectors in the order
of the query's text, and reports the first offender. `assess` applies
all of them to the selectors of one query, in a fixed order of rules:
metrics exist, labels exist, each selector is well formed, no metric is
too large, no blanket pattern is too wide.
-/

set_option autoImplicit false

namespace QueryGuard.Assessment

/-- A metric without any series. -/
def isMissing (s : Snapshot) (metric : String) : Bool := (s.series.get? metric).getD 0 = 0

/-- The first metric without any series. -/
def missingMetric? (metrics : List String) (s : Snapshot) : Option Finding :=
  (metrics.find? (isMissing s)).map .metricNotFound

/-- The first label that has not been observed. -/
def missingLabel? (labels : List String) (s : Snapshot) (query : Wording) : Option Finding :=
  (labels.find? fun l : String => (s.labels.get? l).isNone).map (.labelNotFound · query)

/-- A selector that names its metric by a matcher alone. -/
def namesExplicitly (s : Selector) : Bool := s.name = "" && s.matchers.any Matcher.isOnName

/-- A selector that nothing but its name narrows. -/
def lacksLabelMatcher (s : Selector) : Bool := !(s.matchers.any fun m => !m.isOnName)

/-- What is wrong with the form of one selector. -/
def malformed? (policy : Policy) (query : Wording) (s : Selector) : Option Finding :=
  if policy.disallowExplicitNameLabel && namesExplicitly s then some (.explicitNameLabel query)
  else if policy.requireLabelMatcher && lacksLabelMatcher s then
    some (.missingLabelMatcher s.displayName)
  else none

/-- The first selector whose form is wrong. -/
def malformedSelector? (policy : Policy) (query : Wording) (selectors : List Selector) :
    Option Finding :=
  selectors.findSome? (malformed? policy query)

/-- The first selector of a tree whose form is wrong. Comparisons are
settled one selector at a time, so that one after the offender is never
looked at. -/
def malformedNode? (policy : Policy) (query : Wording) :
    List SelectorNode → Except UnsupportedOperator (Option Finding)
  | [] => .ok none
  | n :: rest => do
    let s ← n.resolve
    match malformed? policy query s with
    | some f => return some f
    | none => malformedNode? policy query rest

/-- The finding on a metric of too many series. -/
def oversized? (s : Snapshot) (limit : Nat) (metric : String) : Option Finding :=
  match s.series.get? metric with
  | some count =>
    if (limit : Int) < count then some (.metricCardinalityExceeded metric count limit) else none
  | none => none

/-- The first metric of too many series. -/
def oversizedMetric? (metrics : List String) (s : Snapshot) (policy : Policy) :
    Option Finding :=
  if policy.maxMetricCardinality = 0 then none
  else metrics.findSome? (oversized? s policy.maxMetricCardinality)

/-- The finding on a label of too many values; an unknown label passes,
since its cost cannot be shown. -/
def tooWide? (query : Wording) (s : Snapshot) (limit : Nat) (label : String) : Option Finding :=
  match s.labels.get? label with
  | some count =>
    if (limit : Int) < count then some (.labelCardinalityExceeded query label count limit)
    else none
  | none => none

/-- The first label whose blanket pattern is refused. -/
def blanketLabel? (labels : List String) (s : Snapshot) (policy : Policy) (query : Wording) :
    Option Finding :=
  if policy.disallowBlanketRegex then
    if policy.maxLabelCardinality = 0 then labels.head?.map (.blanketRegexDisallowed query)
    else labels.findSome? (tooWide? query s policy.maxLabelCardinality)
  else none

/-- What is wrong with a query, given its selectors. -/
def assess (policy : Policy) (query : Wording) (selectors : List Selector) (s : Snapshot) :
    Option Finding :=
  let metrics := metricNames selectors
  missingMetric? metrics s
    <|> missingLabel? (labelNames selectors) s query
    <|> malformedSelector? policy query selectors
    <|> oversizedMetric? metrics s policy
    <|> blanketLabel? (blanketLabelNames selectors) s policy query

end QueryGuard.Assessment
