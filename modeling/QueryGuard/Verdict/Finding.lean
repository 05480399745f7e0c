import QueryGuard.Text.Wording
import QueryGuard.Verdict.Rule

/-!
# `QueryGuard.Verdict.Finding`: what is wrong with a query, in words

A finding holds what a rule found: the query, the metric or the label,
and the counts. Its message names them and says what to do instead, for
a reader who will try again with a better query. It repeats the query
and the backend's own words as they are, halves of pairs included.
-/

set_option autoImplicit false

namespace QueryGuard

/-- What a rule found. -/
inductive Finding where
  | syntaxError (query : Wording) (detail : String)
  | metadataUnavailable (detail : Option Wording)
  | metricNotFound (metric : String)
  | labelNotFound (label : String) (query : Wording)
  | explicitNameLabel (query : Wording)
  | missingLabelMatcher (metric : String)
  | metricCardinalityExceeded (metric : String) (count limit : Int)
  | blanketRegexDisallowed (query : Wording) (label : String)
  | labelCardinalityExceeded (query : Wording) (label : String) (count limit : Int)
  deriving DecidableEq, Repr

namespace Finding

/-- The rule that a finding belongs to. -/
def rule : Finding → Rule
  | .syntaxError .. => .syntaxError
  | .metadataUnavailable .. => .metadataUnavailable
  | .metricNotFound .. => .metricNotFound
  | .labelNotFound .. => .labelNotFound
  | .explicitNameLabel .. => .explicitNameLabel
  | .missingLabelMatcher .. => .missingLabelMatcher
  | .metricCardinalityExceeded .. => .metricCardinalityExceeded
  | .blanketRegexDisallowed .. => .blanketRegexDisallowed
  | .labelCardinalityExceeded .. => .labelCardinalityExceeded

/-- The sentence on a detail, none for a detail that says nothing. -/
def detailSentence : Option Wording → Wording
  | some detail => if detail = "" then "" else " Error details: " ++ detail ++ "."
  | none => ""

/-- A message starts with one of these words. -/
def opening : Finding → String
  | .metadataUnavailable _ => "cannot "
  | _ => "the "

/-- A message after its first word. -/
def remainder : Finding → Wording
  | .syntaxError query detail =>
    "PromQL query '" ++ query ++ "' has a syntax error. Error details: " ++ detail ++
    ". Please check the query syntax and ensure all metric names, labels, and " ++
    "functions are correct and properly formatted"
  | .metadataUnavailable detail =>
    "verify query safety: failed to retrieve metrics information from " ++
    "the metrics backend." ++ detailSentence detail ++
    " The query was rejected because its cost could " ++
    "not be checked. Please verify that the backend is reachable and retry"
  | .metricNotFound metric =>
    "metric '" ++ metric ++ "' does not exist in the metrics backend. " ++
    "You can list the available metric names to find the right one, or check " ++
    "if the metric name is spelled correctly"
  | .labelNotFound label query =>
    "label '" ++ label ++ "' used in query '" ++ query ++ "' does not exist in the metrics " ++
    "backend. Please check if the label name is spelled correctly. Common labels " ++
    "include 'job', 'instance', etc. You may need to verify which labels are " ++
    "available for your metrics"
  | .explicitNameLabel query =>
    "query '" ++ query ++ "' uses explicit \x7b__name__=\"...\"\x7d syntax, which is not " ++
    "allowed. Please use the direct metric name syntax instead (e.g., use " ++
    "'metric_name\x7blabel=\"value\"\x7d' instead of " ++
    "'\x7b__name__=\"metric_name\",label=\"value\"\x7d')"
  | .missingLabelMatcher metric =>
    "query for metric '" ++ metric ++ "' does not have any label filters, which is " ++
    "required for safety. Queries without label matchers can be very expensive as " ++
    "they return all series for a metric. Please add at least one label filter " ++
    "(e.g., '" ++ metric ++ "\x7bjob=\"...\"\x7d' or '" ++ metric ++ "\x7binstance=\"...\"\x7d')"
  | .metricCardinalityExceeded metric count limit =>
    "metric '" ++ metric ++ "' has " ++ toString count ++
    " time series, which exceeds the maximum allowed limit of " ++ toString limit ++
    ". This metric has too many unique label combinations, " ++
    "making queries expensive. Please add more specific label filters to reduce the " ++
    "number of series returned, or use aggregation functions to reduce cardinality"
  | .blanketRegexDisallowed query label =>
    "query '" ++ query ++ "' uses a blanket regex pattern (=~ \".*\" or =~ \".+\") on " ++
    "label '" ++ label ++ "', which is not allowed. Blanket regex patterns match all values " ++
    "and can be extremely expensive. Please use more specific label matchers or " ++
    "exact value matches instead"
  | .labelCardinalityExceeded query label count limit =>
    "query '" ++ query ++ "' uses a blanket regex pattern on label '" ++ label ++
    "', which has " ++ toString count ++ " unique values (" ++ toString count ++ " > " ++
    toString limit ++ "). This exceeds the maximum allowed limit of " ++ toString limit ++
    " for regex patterns. Blanket regex on high-cardinality labels " ++
    "is very expensive. Please use specific label values or more restrictive regex " ++
    "patterns instead"

/-- What a verdict says about a finding. -/
def message (f : Finding) : Wording := f.opening ++ f.remainder

/-- A message always says something. -/
theorem isBlank_message (f : Finding) : f.message.isBlank = false := by
  have cannot : Text.isBlank "cannot " = false := by decide
  have the : Text.isBlank "the " = false := by decide
  have h : Text.isBlank f.opening = false := by cases f <;> assumption
  rw [message, Wording.isBlank_ofString_append, h, Bool.false_and]

end Finding

end QueryGuard
