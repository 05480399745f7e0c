import QueryGuard.Proofs.Assessment.Check

/-!
# `QueryGuard.Proofs.Assessment.Blame`: what an assessment finds

The rules apply in a fixed order, and the first that finds something
decides. Two descriptions of the outcome follow, both free of that order of
computation:

* `assess_eq_none_iff`: nothing is found exactly when every selector alone
  is `Selector.Admissible`.
* `assess_eq_some_iff`: what is found is the `FirstViolation`, which has
  one case for each thing that can be found. A case says that the earlier
  rules are satisfied and why its construct is the one to name.
-/

set_option autoImplicit false

namespace QueryGuard

/-- A selector that no rule objects to. -/
structure Selector.Admissible (policy : Policy) (snapshot : Snapshot) (s : Selector) : Prop where
  metricsExist : s.MetricsExist snapshot
  labelsExist : s.LabelsExist snapshot
  wellFormed : s.WellFormed policy
  metricsFit : s.MetricsFit policy snapshot
  blanketsFit : s.BlanketsFit policy snapshot

namespace Assessment

section
variable (policy : Policy) (query : Wording) (snapshot : Snapshot) (selectors : List Selector)

/-- The first violation in the order of the rules, with the construct that
it names: the least name where a rule is about names, the first selector
where it is about the form of selectors. -/
inductive FirstViolation : Finding → Prop where
  | metricNotFound {metric : String}
    (least : IsLeast {m | (∃ s ∈ selectors, s.RefersTo m) ∧ ¬ snapshot.HasSeries m} metric) :
    FirstViolation (.metricNotFound metric)
  | labelNotFound {label : String}
    (metricsExist : ∀ s ∈ selectors, s.MetricsExist snapshot)
    (least : IsLeast {l | (∃ s ∈ selectors, s.MatchesOn l) ∧ ¬ snapshot.HasLabel l} label) :
    FirstViolation (.labelNotFound label query)
  | explicitNameLabel {before after : List Selector} {s : Selector}
    (metricsExist : ∀ s ∈ selectors, s.MetricsExist snapshot)
    (labelsExist : ∀ s ∈ selectors, s.LabelsExist snapshot)
    (split : selectors = before ++ s :: after)
    (first : ∀ b ∈ before, b.WellFormed policy)
    (enabled : policy.disallowExplicitNameLabel = true) (named : s.NamedByMatcher) :
    FirstViolation (.explicitNameLabel query)
  | missingLabelMatcher {before after : List Selector} {s : Selector} {text : String}
    (metricsExist : ∀ s ∈ selectors, s.MetricsExist snapshot)
    (labelsExist : ∀ s ∈ selectors, s.LabelsExist snapshot)
    (split : selectors = before ++ s :: after)
    (first : ∀ b ∈ before, b.WellFormed policy)
    (notExplicit : ¬ (policy.disallowExplicitNameLabel = true ∧ s.NamedByMatcher))
    (enabled : policy.requireLabelMatcher = true) (unfiltered : ¬ s.Filtered)
    (shown : s.ShownAs text) :
    FirstViolation (.missingLabelMatcher text)
  | metricCardinalityExceeded {metric : String} {count : Int}
    (metricsExist : ∀ s ∈ selectors, s.MetricsExist snapshot)
    (labelsExist : ∀ s ∈ selectors, s.LabelsExist snapshot)
    (wellFormed : ∀ s ∈ selectors, s.WellFormed policy)
    (enabled : 0 < policy.maxMetricCardinality)
    (least : IsLeast {m | (∃ s ∈ selectors, s.RefersTo m) ∧
      ∃ c, snapshot.series.get? m = some c ∧ policy.maxMetricCardinality < c} metric)
    (exact : snapshot.series.get? metric = some count) :
    FirstViolation (.metricCardinalityExceeded metric count policy.maxMetricCardinality)
  | blanketRegexDisallowed {label : String}
    (metricsExist : ∀ s ∈ selectors, s.MetricsExist snapshot)
    (labelsExist : ∀ s ∈ selectors, s.LabelsExist snapshot)
    (wellFormed : ∀ s ∈ selectors, s.WellFormed policy)
    (metricsFit : ∀ s ∈ selectors, s.MetricsFit policy snapshot)
    (enabled : policy.disallowBlanketRegex = true) (always : policy.maxLabelCardinality = 0)
    (least : IsLeast {l | ∃ s ∈ selectors, s.Blankets l} label) :
    FirstViolation (.blanketRegexDisallowed query label)
  | labelCardinalityExceeded {label : String} {count : Int}
    (metricsExist : ∀ s ∈ selectors, s.MetricsExist snapshot)
    (labelsExist : ∀ s ∈ selectors, s.LabelsExist snapshot)
    (wellFormed : ∀ s ∈ selectors, s.WellFormed policy)
    (metricsFit : ∀ s ∈ selectors, s.MetricsFit policy snapshot)
    (enabled : policy.disallowBlanketRegex = true) (limited : 0 < policy.maxLabelCardinality)
    (least : IsLeast {l | (∃ s ∈ selectors, s.Blankets l) ∧
      ∃ c, snapshot.labels.get? l = some c ∧ policy.maxLabelCardinality < c} label)
    (exact : snapshot.labels.get? label = some count) :
    FirstViolation
      (.labelCardinalityExceeded query label count policy.maxLabelCardinality)

end

section
variable {policy : Policy} {query : Wording} {snapshot : Snapshot} {selectors : List Selector}

/-- The rules of an assessment, in order. -/
theorem assess_eq_or :
    assess policy query selectors snapshot =
      (missingMetric? (metricNames selectors) snapshot).or
        ((missingLabel? (labelNames selectors) snapshot query).or
          ((malformedSelector? policy query selectors).or
            ((oversizedMetric? (metricNames selectors) snapshot policy).or
              (blanketLabel? (blanketLabelNames selectors) snapshot policy query)))) := by
  simp only [assess, Option.orElse_eq_orElse, Option.orElse_eq_or]

/-- An assessment finds nothing when every selector alone is admissible. -/
theorem assess_eq_none_iff :
    assess policy query selectors snapshot = none ↔
      ∀ s ∈ selectors, s.Admissible policy snapshot := by
  rw [assess_eq_or]
  simp only [Option.or_eq_none_iff, missingMetric?_eq_none_iff, missingLabel?_eq_none_iff,
    malformedSelector?_eq_none_iff, oversizedMetric?_eq_none_iff, blanketLabel?_eq_none_iff]
  constructor
  · rintro ⟨hmetrics, hlabels, hform, hfit, hblankets⟩ s hs
    exact ⟨hmetrics s hs, hlabels s hs, hform s hs, hfit s hs, hblankets s hs⟩
  · intro h
    exact ⟨fun s hs => (h s hs).metricsExist, fun s hs => (h s hs).labelsExist,
      fun s hs => (h s hs).wellFormed, fun s hs => (h s hs).metricsFit,
      fun s hs => (h s hs).blanketsFit⟩

/-- A selector is admissible when an assessment of it alone finds nothing. -/
theorem assess_singleton_eq_none_iff {s : Selector} :
    assess policy query [s] snapshot = none ↔ s.Admissible policy snapshot := by
  rw [assess_eq_none_iff, List.forall_mem_singleton]

instance {s : Selector} : Decidable (s.Admissible policy snapshot) :=
  decidable_of_iff (assess policy "" [s] snapshot = none) assess_singleton_eq_none_iff

/-- An assessment finds the first violation. -/
theorem assess_eq_some_iff {f : Finding} :
    assess policy query selectors snapshot = some f ↔
      FirstViolation policy query snapshot selectors f := by
  rw [assess_eq_or]
  simp only [Option.or_eq_some_iff, missingMetric?_eq_none_iff, missingLabel?_eq_none_iff,
    malformedSelector?_eq_none_iff, oversizedMetric?_eq_none_iff, missingMetric?_eq_some_iff,
    missingLabel?_eq_some_iff, malformedSelector?_eq_some_iff, malformed?_eq_some_iff,
    oversizedMetric?_eq_some_iff, blanketLabel?_eq_some_iff]
  -- A later rule decides only where the earlier ones find nothing: one case for each.
  constructor
  · rintro (⟨metric, least, rfl⟩ | ⟨hmetrics, ⟨label, least, rfl⟩ | ⟨hlabels,
      ⟨before, s, after, split, first, ⟨enabled, named, rfl⟩ |
        ⟨notExplicit, enabled, unfiltered, rfl⟩⟩ |
      ⟨hform, ⟨enabled, metric, count, least, exact, rfl⟩ | ⟨hfit, enabled,
        ⟨always, label, least, rfl⟩ | ⟨limited, label, count, least, exact, rfl⟩⟩⟩⟩⟩)
    · exact .metricNotFound least
    · exact .labelNotFound hmetrics least
    · exact .explicitNameLabel hmetrics hlabels split first enabled named
    · exact .missingLabelMatcher hmetrics hlabels split first notExplicit enabled unfiltered
        (Selector.shownAs_iff.2 rfl)
    · exact .metricCardinalityExceeded hmetrics hlabels hform enabled least exact
    · exact .blanketRegexDisallowed hmetrics hlabels hform hfit enabled always least
    · exact .labelCardinalityExceeded hmetrics hlabels hform hfit enabled limited least exact
  · intro h
    cases h with
    | metricNotFound least => exact .inl ⟨_, least, rfl⟩
    | labelNotFound hmetrics least => exact .inr ⟨hmetrics, .inl ⟨_, least, rfl⟩⟩
    | explicitNameLabel hmetrics hlabels split first enabled named =>
      exact .inr ⟨hmetrics, .inr ⟨hlabels, .inl
        ⟨_, _, _, split, first, .inl ⟨enabled, named, rfl⟩⟩⟩⟩
    | missingLabelMatcher hmetrics hlabels split first notExplicit enabled unfiltered shown =>
      rw [Selector.shownAs_iff] at shown
      subst shown
      exact .inr ⟨hmetrics, .inr ⟨hlabels, .inl
        ⟨_, _, _, split, first, .inr ⟨notExplicit, enabled, unfiltered, rfl⟩⟩⟩⟩
    | metricCardinalityExceeded hmetrics hlabels hform enabled least exact =>
      exact .inr ⟨hmetrics, .inr ⟨hlabels, .inr ⟨hform, .inl
        ⟨enabled, _, _, least, exact, rfl⟩⟩⟩⟩
    | blanketRegexDisallowed hmetrics hlabels hform hfit enabled always least =>
      exact .inr ⟨hmetrics, .inr ⟨hlabels, .inr ⟨hform, .inr ⟨hfit, enabled, .inl
        ⟨always, _, least, rfl⟩⟩⟩⟩⟩
    | labelCardinalityExceeded hmetrics hlabels hform hfit enabled limited least exact =>
      exact .inr ⟨hmetrics, .inr ⟨hlabels, .inr ⟨hform, .inr ⟨hfit, enabled, .inr
        ⟨limited, _, _, least, exact, rfl⟩⟩⟩⟩⟩

/-- At most one finding is the first violation. -/
theorem FirstViolation.unique {f g : Finding}
    (hf : FirstViolation policy query snapshot selectors f)
    (hg : FirstViolation policy query snapshot selectors g) : f = g :=
  Option.some.inj ((assess_eq_some_iff.2 hf).symm.trans (assess_eq_some_iff.2 hg))

end

end Assessment

end QueryGuard
