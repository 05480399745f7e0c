import QueryGuard.Assessment
import QueryGuard.Proofs.Query.Selector
import QueryGuard.Proofs.Text.Ascending

/-!
# `QueryGuard.Proofs.Assessment.Check`: each rule, one selector at a time

The rules of an assessment look at names pooled from all selectors of a
query, sorted and without repetition. Each rule has two lemmas here that
take the pool apart again:

* `…_eq_none_iff`: the rule finds nothing exactly when every selector alone
  satisfies a condition (`Selector.MetricsExist`, `Selector.LabelsExist`,
  `Selector.WellFormed`, `Selector.MetricsFit`, `Selector.BlanketsFit`).
* `…_eq_some_iff`: otherwise it reports the least of the offending names;
  the rule on the form of selectors reports the first selector instead.
-/

set_option autoImplicit false

namespace QueryGuard

/-! ### What each rule asks of one selector -/

/-- A metric has series. A count of zero is no better than none. -/
def Snapshot.HasSeries (snapshot : Snapshot) (metric : String) : Prop :=
  ∃ count, snapshot.series.get? metric = some count ∧ count ≠ 0

/-- A label has been observed, be it with a count of zero. -/
def Snapshot.HasLabel (snapshot : Snapshot) (label : String) : Prop :=
  ∃ count, snapshot.labels.get? label = some count

namespace Selector

/-- Every metric that the selector refers to has series. -/
def MetricsExist (s : Selector) (snapshot : Snapshot) : Prop :=
  ∀ metric, s.RefersTo metric → snapshot.HasSeries metric

/-- Every label that the selector matches on has been observed. -/
def LabelsExist (s : Selector) (snapshot : Snapshot) : Prop :=
  ∀ label, s.MatchesOn label → snapshot.HasLabel label

/-- The selector has the form that the policy asks for. -/
def WellFormed (s : Selector) (policy : Policy) : Prop :=
  (policy.disallowExplicitNameLabel = true → ¬ s.NamedByMatcher) ∧
    (policy.requireLabelMatcher = true → s.Filtered)

/-- No metric that the selector refers to has too many series. A limit of
zero is none. -/
def MetricsFit (s : Selector) (policy : Policy) (snapshot : Snapshot) : Prop :=
  0 < policy.maxMetricCardinality → ∀ metric count, s.RefersTo metric →
    snapshot.series.get? metric = some count → count ≤ policy.maxMetricCardinality

/-- No label under a blanket pattern has too many values. A limit of zero
admits no such label at all; a label that has not been observed passes any
other limit. -/
def BlanketsFit (s : Selector) (policy : Policy) (snapshot : Snapshot) : Prop :=
  policy.disallowBlanketRegex = true → ∀ label, s.Blankets label →
    0 < policy.maxLabelCardinality ∧
      ∀ count, snapshot.labels.get? label = some count → count ≤ policy.maxLabelCardinality

/-- The check for explicit names finds selectors that a matcher alone names. -/
theorem namesExplicitly_iff {s : Selector} :
    Assessment.namesExplicitly s = true ↔ s.NamedByMatcher := by
  simp [Assessment.namesExplicitly, NamedByMatcher, Matcher.isOnName_iff]

/-- The check for label matchers finds selectors without a filter. -/
theorem lacksLabelMatcher_iff {s : Selector} :
    Assessment.lacksLabelMatcher s = true ↔ ¬ s.Filtered := by
  simp [Assessment.lacksLabelMatcher, Filtered, Matcher.isOnName_iff]

end Selector

namespace Assessment

variable {policy : Policy} {query : Wording} {snapshot : Snapshot} {selectors : List Selector}

/-! ### Searching the pooled names -/

section
variable {names : Selector → List String} {Has : Selector → String → Prop}

/-- A search over pooled names finds nothing when it finds nothing in any
selector. -/
theorem search_eq_none_iff (hnames : ∀ {s x}, x ∈ names s ↔ Has s x)
    {search : String → Option Finding} :
    (Text.ascending (selectors.flatMap names)).findSome? search = none ↔
      ∀ s ∈ selectors, ∀ x, Has s x → search x = none := by
  rw [Text.findSome?_ascending_eq_none]
  constructor
  · intro h s hs x hx
    exact h x (List.mem_flatMap.2 ⟨s, hs, hnames.2 hx⟩)
  · intro h x hx
    obtain ⟨s, hs, hx⟩ := List.mem_flatMap.1 hx
    exact h s hs x (hnames.1 hx)

/-- A search over pooled names reports the least name in any selector that
it finds something for. -/
theorem search_eq_some_iff (hnames : ∀ {s x}, x ∈ names s ↔ Has s x)
    {search : String → Option Finding} {Offends : String → Prop}
    (hoffends : ∀ {x}, (search x).isSome = true ↔ Offends x) {f : Finding} :
    (Text.ascending (selectors.flatMap names)).findSome? search = some f ↔
      ∃ x, IsLeast {y | (∃ s ∈ selectors, Has s y) ∧ Offends y} x ∧ search x = some f := by
  rw [Text.findSome?_ascending_eq_some]
  simp only [List.mem_flatMap, hnames, hoffends]

/-- `search_eq_none_iff` for a test on names. -/
theorem find_eq_none_iff (hnames : ∀ {s x}, x ∈ names s ↔ Has s x) {test : String → Bool}
    {Passes : String → Prop} (htest : ∀ {x}, test x = true ↔ ¬ Passes x)
    {report : String → Finding} :
    ((Text.ascending (selectors.flatMap names)).find? test).map report = none ↔
      ∀ s ∈ selectors, ∀ x, Has s x → Passes x := by
  rw [Text.map_find?, search_eq_none_iff hnames]
  simp [htest]

/-- `search_eq_some_iff` for a test on names. -/
theorem find_eq_some_iff (hnames : ∀ {s x}, x ∈ names s ↔ Has s x) {test : String → Bool}
    {Passes : String → Prop} (htest : ∀ {x}, test x = true ↔ ¬ Passes x)
    {report : String → Finding} {f : Finding} :
    ((Text.ascending (selectors.flatMap names)).find? test).map report = some f ↔
      ∃ x, IsLeast {y | (∃ s ∈ selectors, Has s y) ∧ ¬ Passes y} x ∧ f = report x := by
  have hoffends : ∀ {y}, (if test y then some (report y) else none).isSome = true ↔ ¬ Passes y :=
    by simp [htest]
  rw [Text.map_find?, search_eq_some_iff hnames hoffends]
  -- The least offender fails the test, so the search reports on it.
  refine exists_congr fun x => and_congr_right fun h => ?_
  rw [if_pos (htest.2 h.1.2), Option.some.injEq, eq_comm]

end

/-! ### Metrics and labels exist -/

/-- A metric is missing if the snapshot has no series of it. -/
theorem isMissing_iff {metric : String} :
    isMissing snapshot metric = true ↔ ¬ snapshot.HasSeries metric := by
  unfold isMissing Snapshot.HasSeries
  rw [decide_eq_true_iff]
  cases snapshot.series.get? metric <;> simp

/-- No metric is reported if those of every selector exist. -/
theorem missingMetric?_eq_none_iff :
    missingMetric? (metricNames selectors) snapshot = none ↔
      ∀ s ∈ selectors, s.MetricsExist snapshot :=
  find_eq_none_iff Selector.mem_metrics isMissing_iff

/-- Otherwise it is the first by name of those that are missing. -/
theorem missingMetric?_eq_some_iff {f : Finding} :
    missingMetric? (metricNames selectors) snapshot = some f ↔
      ∃ metric, IsLeast {m | (∃ s ∈ selectors, s.RefersTo m) ∧ ¬ snapshot.HasSeries m} metric ∧
        f = .metricNotFound metric :=
  find_eq_some_iff Selector.mem_metrics isMissing_iff

/-- A label is missing if the snapshot has no count for it. -/
theorem isNone_get?_iff {label : String} :
    (snapshot.labels.get? label).isNone = true ↔ ¬ snapshot.HasLabel label := by
  unfold Snapshot.HasLabel
  cases snapshot.labels.get? label <;> simp

/-- No label is reported if those of every selector exist. -/
theorem missingLabel?_eq_none_iff :
    missingLabel? (labelNames selectors) snapshot query = none ↔
      ∀ s ∈ selectors, s.LabelsExist snapshot :=
  find_eq_none_iff Selector.mem_labels isNone_get?_iff

/-- Otherwise it is the first by name of those that are missing. -/
theorem missingLabel?_eq_some_iff {f : Finding} :
    missingLabel? (labelNames selectors) snapshot query = some f ↔
      ∃ label, IsLeast {l | (∃ s ∈ selectors, s.MatchesOn l) ∧ ¬ snapshot.HasLabel l} label ∧
        f = .labelNotFound label query :=
  find_eq_some_iff Selector.mem_labels isNone_get?_iff

/-! ### Selectors are well formed -/

/-- A selector whose name stands in a matcher fails first on that; only then
does it matter whether anything narrows it. -/
theorem malformed?_eq_some_iff {s : Selector} {f : Finding} :
    malformed? policy query s = some f ↔
      (policy.disallowExplicitNameLabel = true ∧ s.NamedByMatcher ∧
        f = .explicitNameLabel query) ∨
      (¬ (policy.disallowExplicitNameLabel = true ∧ s.NamedByMatcher) ∧
        policy.requireLabelMatcher = true ∧ ¬ s.Filtered ∧
        f = .missingLabelMatcher s.displayName) := by
  -- Two guards in a row, the name before the label. The second branch speaks only where the
  -- first guard failed.
  unfold malformed?
  split
  · rename_i h
    rw [Bool.and_eq_true, Selector.namesExplicitly_iff] at h
    rw [Option.some.injEq, eq_comm]
    constructor
    · intro hf
      exact .inl ⟨h.1, h.2, hf⟩
    · rintro (⟨-, -, hf⟩ | ⟨hnot, -⟩)
      · exact hf
      · exact absurd h hnot
  · rename_i h
    rw [Bool.and_eq_true, Selector.namesExplicitly_iff] at h
    split
    · rename_i h'
      rw [Bool.and_eq_true, Selector.lacksLabelMatcher_iff] at h'
      rw [Option.some.injEq, eq_comm]
      constructor
      · intro hf
        exact .inr ⟨h, h'.1, h'.2, hf⟩
      · rintro (⟨hon, hnamed, -⟩ | ⟨-, -, -, hf⟩)
        · exact absurd ⟨hon, hnamed⟩ h
        · exact hf
    · rename_i h'
      rw [Bool.and_eq_true, Selector.lacksLabelMatcher_iff] at h'
      refine ⟨nofun, ?_⟩
      rintro (⟨hon, hnamed, -⟩ | ⟨-, hon, hfiltered, -⟩)
      · exact absurd ⟨hon, hnamed⟩ h
      · exact absurd ⟨hon, hfiltered⟩ h'

/-- Nothing is wrong with the form of a well-formed selector. -/
theorem malformed?_eq_none_iff {s : Selector} :
    malformed? policy query s = none ↔ s.WellFormed policy := by
  rw [Option.eq_none_iff_forall_ne_some]
  simp only [ne_eq, malformed?_eq_some_iff, Selector.WellFormed]
  constructor
  · intro h
    have hform : policy.disallowExplicitNameLabel = true → ¬ s.NamedByMatcher :=
      fun hon hnamed => h _ (.inl ⟨hon, hnamed, rfl⟩)
    refine ⟨hform, fun hon => Classical.byContradiction fun hfiltered => ?_⟩
    -- The second finding is made only where the first is not.
    exact h _ (.inr ⟨fun hboth => hform hboth.1 hboth.2, hon, hfiltered, rfl⟩)
  · rintro ⟨hform, hfiltered⟩ f (⟨hon, hnamed, -⟩ | ⟨-, hon, hnot, -⟩)
    · exact hform hon hnamed
    · exact hnot (hfiltered hon)

/-- Nothing is reported if all selectors are well formed. -/
theorem malformedSelector?_eq_none_iff :
    malformedSelector? policy query selectors = none ↔
      ∀ s ∈ selectors, s.WellFormed policy := by
  simp only [malformedSelector?, List.findSome?_eq_none_iff, malformed?_eq_none_iff]

/-- The selector that is reported as malformed: the first in the order of
the query, whatever the rules that later ones break. -/
theorem malformedSelector?_eq_some_iff {f : Finding} :
    malformedSelector? policy query selectors = some f ↔
      ∃ before s after, selectors = before ++ s :: after ∧
        (∀ b ∈ before, b.WellFormed policy) ∧ malformed? policy query s = some f := by
  simp only [malformedSelector?, List.findSome?_eq_some_iff, malformed?_eq_none_iff]
  refine exists_congr fun before => exists_congr fun s => exists_congr fun after => ?_
  exact and_congr_right fun _ => and_comm

/-! ### Counts within a limit -/

/-- What is reported on a name whose count is above a limit. -/
def exceeds? (counts : Counts) (limit : Nat) (report : Int → Finding) (name : String) :
    Option Finding :=
  (counts.get? name).bind fun count => if (limit : Int) < count then some (report count) else none

/-- The check for large metrics is a comparison of counts with a limit. -/
theorem oversized?_eq_exceeds? (limit : Nat) :
    oversized? snapshot limit = fun metric =>
      exceeds? snapshot.series limit (.metricCardinalityExceeded metric · limit) metric := by
  funext metric
  unfold oversized? exceeds?
  cases snapshot.series.get? metric <;> rfl

/-- So is the check for wide labels. -/
theorem tooWide?_eq_exceeds? (limit : Nat) :
    tooWide? query snapshot limit = fun label =>
      exceeds? snapshot.labels limit (.labelCardinalityExceeded query label · limit) label := by
  funext label
  unfold tooWide? exceeds?
  cases snapshot.labels.get? label <;> rfl

section
variable {counts : Counts} {limit : Nat}

/-- A count is reported if it is there and above the limit. -/
theorem exceeds?_eq_some_iff {report : Int → Finding} {name : String} {f : Finding} :
    exceeds? counts limit report name = some f ↔
      ∃ count, counts.get? name = some count ∧ limit < count ∧ f = report count := by
  unfold exceeds?
  cases counts.get? name with
  | none => simp
  | some count => simp [eq_comm]

/-- Whether it is reported does not depend on how. -/
theorem isSome_exceeds?_iff {report : Int → Finding} {name : String} :
    (exceeds? counts limit report name).isSome = true ↔
      ∃ count, counts.get? name = some count ∧ limit < count := by
  simp [Option.isSome_iff_exists, exceeds?_eq_some_iff]

/-- A count that is not there is not above the limit. -/
theorem exceeds?_eq_none_iff {report : Int → Finding} {name : String} :
    exceeds? counts limit report name = none ↔
      ∀ count, counts.get? name = some count → count ≤ limit := by
  rw [← Option.not_isSome_iff_eq_none, isSome_exceeds?_iff]
  simp

variable {names : Selector → List String} {Has : Selector → String → Prop}
  {report : String → Int → Finding}

/-- No name is above the limit when none is in any selector. -/
theorem search_exceeds?_eq_none_iff (hnames : ∀ {s x}, x ∈ names s ↔ Has s x) :
    ((Text.ascending (selectors.flatMap names)).findSome? fun x =>
        exceeds? counts limit (report x) x) = none ↔
      ∀ s ∈ selectors, ∀ x, Has s x → ∀ count, counts.get? x = some count → count ≤ limit := by
  rw [search_eq_none_iff hnames]
  simp only [exceeds?_eq_none_iff]

/-- The least name above the limit is reported, with its count. -/
theorem search_exceeds?_eq_some_iff (hnames : ∀ {s x}, x ∈ names s ↔ Has s x) {f : Finding} :
    ((Text.ascending (selectors.flatMap names)).findSome? fun x =>
        exceeds? counts limit (report x) x) = some f ↔
      ∃ x count, IsLeast {y | (∃ s ∈ selectors, Has s y) ∧
          ∃ c, counts.get? y = some c ∧ limit < c} x ∧
        counts.get? x = some count ∧ f = report x count := by
  rw [search_eq_some_iff hnames isSome_exceeds?_iff]
  refine exists_congr fun x => ?_
  rw [exceeds?_eq_some_iff]
  constructor
  · rintro ⟨hleast, count, hcount, -, hf⟩
    exact ⟨count, hleast, hcount, hf⟩
  · rintro ⟨count, hleast, hcount, hf⟩
    -- The least name is itself above the limit, and has one count only.
    obtain ⟨c, hc, hlt⟩ := hleast.1.2
    have hsame : count = c := Option.some.inj (hcount.symm.trans hc)
    rw [← hsame] at hlt
    exact ⟨hleast, count, hcount, hlt, hf⟩

end

/-! ### Metrics and blanket patterns fit -/

/-- No metric is reported if those of every selector fit. -/
theorem oversizedMetric?_eq_none_iff :
    oversizedMetric? (metricNames selectors) snapshot policy = none ↔
      ∀ s ∈ selectors, s.MetricsFit policy snapshot := by
  unfold oversizedMetric? metricNames Selector.MetricsFit
  split
  · rename_i hzero
    simp [hzero]
  · rename_i hlimit
    rw [oversized?_eq_exceeds?, search_exceeds?_eq_none_iff Selector.mem_metrics]
    simp only [Nat.pos_of_ne_zero hlimit, true_imp_iff]
    refine forall₂_congr fun s _ => forall_congr' fun metric => ?_
    exact ⟨fun h count hrefers => h hrefers count, fun h hrefers count => h count hrefers⟩

/-- Otherwise it is the first by name of those above the limit, with its count. -/
theorem oversizedMetric?_eq_some_iff {f : Finding} :
    oversizedMetric? (metricNames selectors) snapshot policy = some f ↔
      0 < policy.maxMetricCardinality ∧ ∃ metric count,
        IsLeast {m | (∃ s ∈ selectors, s.RefersTo m) ∧
          ∃ c, snapshot.series.get? m = some c ∧ policy.maxMetricCardinality < c} metric ∧
        snapshot.series.get? metric = some count ∧
        f = .metricCardinalityExceeded metric count policy.maxMetricCardinality := by
  unfold oversizedMetric? metricNames
  split
  · rename_i hzero
    simp [hzero]
  · rename_i hlimit
    rw [oversized?_eq_exceeds?, search_exceeds?_eq_some_iff Selector.mem_metrics,
      and_iff_right (Nat.pos_of_ne_zero hlimit)]

/-- No label is reported if the blankets of every selector fit. -/
theorem blanketLabel?_eq_none_iff :
    blanketLabel? (blanketLabelNames selectors) snapshot policy query = none ↔
      ∀ s ∈ selectors, s.BlanketsFit policy snapshot := by
  -- A limit of zero forbids every blanket regex; any other limit is searched for a label
  -- beyond it.
  unfold blanketLabel? blanketLabelNames Selector.BlanketsFit
  split
  · rename_i hon
    split
    · rename_i hzero
      rw [Text.map_head?, search_eq_none_iff Selector.mem_blanketLabels]
      simp [hon, hzero]
    · rename_i hlimit
      rw [tooWide?_eq_exceeds?, search_exceeds?_eq_none_iff Selector.mem_blanketLabels]
      simp only [hon, Nat.pos_of_ne_zero hlimit, true_imp_iff, true_and]
  · rename_i hoff
    simp [hoff]

/-- The label that is reported for its blanket pattern: with a limit of zero
the least one under such a pattern, with any other limit the least one of
too many values. -/
theorem blanketLabel?_eq_some_iff {f : Finding} :
    blanketLabel? (blanketLabelNames selectors) snapshot policy query = some f ↔
      policy.disallowBlanketRegex = true ∧
        ((policy.maxLabelCardinality = 0 ∧ ∃ label,
          IsLeast {l | ∃ s ∈ selectors, s.Blankets l} label ∧
          f = .blanketRegexDisallowed query label) ∨
        (0 < policy.maxLabelCardinality ∧ ∃ label count,
          IsLeast {l | (∃ s ∈ selectors, s.Blankets l) ∧
            ∃ c, snapshot.labels.get? l = some c ∧ policy.maxLabelCardinality < c} label ∧
          snapshot.labels.get? label = some count ∧
          f = .labelCardinalityExceeded query label count policy.maxLabelCardinality)) := by
  unfold blanketLabel? blanketLabelNames
  split
  · rename_i hon
    rw [and_iff_right hon]
    split
    · rename_i hzero
      -- A limit of zero lets no label through: the least one is the first to offend.
      have hoffends : ∀ {l : String},
          (some (Finding.blanketRegexDisallowed query l)).isSome = true ↔ True := by simp
      rw [Text.map_head?, search_eq_some_iff Selector.mem_blanketLabels hoffends]
      simp [hzero, eq_comm]
    · rename_i hlimit
      rw [tooWide?_eq_exceeds?, search_exceeds?_eq_some_iff Selector.mem_blanketLabels,
        or_iff_right fun h => hlimit h.1, and_iff_right (Nat.pos_of_ne_zero hlimit)]
  · rename_i hoff
    simp [hoff]

end Assessment

end QueryGuard
