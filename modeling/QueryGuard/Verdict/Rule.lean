/-!
# `QueryGuard.Verdict.Rule`: what a query can be rejected for
-/

set_option autoImplicit false

namespace QueryGuard

/-- The rules that reject a query. -/
inductive Rule where
  | syntaxError
  | metadataUnavailable
  | metricNotFound
  | labelNotFound
  | explicitNameLabel
  | missingLabelMatcher
  | metricCardinalityExceeded
  | blanketRegexDisallowed
  | labelCardinalityExceeded
  deriving DecidableEq, Repr

namespace Rule

/-- All rules. -/
def all : List Rule :=
  [.syntaxError, .metadataUnavailable, .metricNotFound, .labelNotFound, .explicitNameLabel,
    .missingLabelMatcher, .metricCardinalityExceeded, .blanketRegexDisallowed,
    .labelCardinalityExceeded]

/-- The name of a rule in verdicts. -/
def name : Rule → String
  | .syntaxError => "syntax-error"
  | .metadataUnavailable => "metadata-unavailable"
  | .metricNotFound => "metric-not-found"
  | .labelNotFound => "label-not-found"
  | .explicitNameLabel => "explicit-name-label"
  | .missingLabelMatcher => "missing-label-matcher"
  | .metricCardinalityExceeded => "metric-cardinality-exceeded"
  | .blanketRegexDisallowed => "blanket-regex-disallowed"
  | .labelCardinalityExceeded => "label-cardinality-exceeded"

/-- The rule of a name. -/
def ofName? (name : String) : Option Rule := all.find? (·.name = name)

end Rule

end QueryGuard
