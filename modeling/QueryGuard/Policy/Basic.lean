import QueryGuard.Json.Basic

/-!
# `QueryGuard.Policy.Basic`: which rules are on, and their thresholds

A policy switches three rules on or off and sets two thresholds. The
existence of metrics and labels is checked under every policy.
-/

set_option autoImplicit false

namespace QueryGuard

/-- The rules that a policy may switch on. -/
inductive PolicyRule where
  | disallowExplicitNameLabel
  | requireLabelMatcher
  | disallowBlanketRegex
  deriving DecidableEq, Repr

namespace PolicyRule

/-- All rules, in the order in which they are listed. -/
def all : List PolicyRule :=
  [.disallowExplicitNameLabel, .requireLabelMatcher, .disallowBlanketRegex]

/-- How a rule list names a rule. -/
def name : PolicyRule → String
  | .disallowExplicitNameLabel => "disallow-explicit-name-label"
  | .requireLabelMatcher => "require-label-matcher"
  | .disallowBlanketRegex => "disallow-blanket-regex"

/-- The rule of a name. -/
def ofName? (name : String) : Option PolicyRule := all.find? (·.name = name)

end PolicyRule

/-- The rules that are on, and their thresholds. -/
structure Policy where
  /-- Refuse a matcher on the name label where the name could stand in
  front. -/
  disallowExplicitNameLabel : Bool := false
  /-- Every selector needs a matcher on a label other than the name. -/
  requireLabelMatcher : Bool := false
  /-- Refuse blanket patterns on labels of too many values. -/
  disallowBlanketRegex : Bool := false
  /-- The most series that a metric may have; zero sets no limit. -/
  maxMetricCardinality : Nat := 0
  /-- The most values that a label under a blanket pattern may have;
  zero refuses every blanket pattern. -/
  maxLabelCardinality : Nat := 0
  deriving DecidableEq, Repr

/-- Why there is no policy. -/
inductive PolicyError where
  /-- A name that no rule has. -/
  | unknownRule (name : String)
  /-- A threshold that is not a whole number from zero on. -/
  | badThreshold (field : String) (value : Json)

/-- The wording of a policy error. -/
def PolicyError.message : PolicyError → String
  | .unknownRule name =>
    let valid := ", ".intercalate (PolicyRule.all.map PolicyRule.name)
    s!"unknown guardrail: {Text.quoted name} (valid options: {valid})"
  | .badThreshold field value =>
    s!"{field} must be a non-negative integer, got {value.literal}"

namespace Policy

/-- A rule is on. -/
def enables (p : Policy) : PolicyRule → Bool
  | .disallowExplicitNameLabel => p.disallowExplicitNameLabel
  | .requireLabelMatcher => p.requireLabelMatcher
  | .disallowBlanketRegex => p.disallowBlanketRegex

/-- The policy that has the given rules on, and no thresholds. -/
def ofRules (rules : List PolicyRule) : Policy where
  disallowExplicitNameLabel := rules.contains .disallowExplicitNameLabel
  requireLabelMatcher := rules.contains .requireLabelMatcher
  disallowBlanketRegex := rules.contains .disallowBlanketRegex

/-- The names of the rules that are on. -/
def enabledRules (p : Policy) : List String :=
  (PolicyRule.all.filter p.enables).map PolicyRule.name

/-- The policy that applies where nothing else is asked for. -/
def standard : Policy where
  disallowExplicitNameLabel := true
  requireLabelMatcher := true
  disallowBlanketRegex := true
  maxMetricCardinality := 20000
  maxLabelCardinality := 500

/-- The field of the metric threshold. -/
def metricField : String := "max_metric_cardinality"

/-- The field of the label threshold. -/
def labelField : String := "max_label_cardinality"

/-- The threshold that a field asks for. -/
def threshold (field : String) (value : Json) : Except PolicyError Nat :=
  match value with
  | .number (.int n) => if 0 ≤ n then .ok n.toNat else .error (.badThreshold field value)
  | _ => .error (.badThreshold field value)

/-- A policy with the thresholds that are given; the others stay. -/
def withThresholds (p : Policy) (metric label : Option Json) : Except PolicyError Policy := do
  let maxMetric ← match metric with
    | some value => threshold metricField value
    | none => .ok p.maxMetricCardinality
  let maxLabel ← match label with
    | some value => threshold labelField value
    | none => .ok p.maxLabelCardinality
  return { p with maxMetricCardinality := maxMetric, maxLabelCardinality := maxLabel }

/-- The fields of a policy. -/
def fields (p : Policy) : Fields Json :=
  [("disallow_explicit_name_label", .bool p.disallowExplicitNameLabel),
    ("require_label_matcher", .bool p.requireLabelMatcher),
    ("disallow_blanket_regex", .bool p.disallowBlanketRegex),
    (metricField, .int p.maxMetricCardinality),
    (labelField, .int p.maxLabelCardinality)]

end Policy

end QueryGuard
