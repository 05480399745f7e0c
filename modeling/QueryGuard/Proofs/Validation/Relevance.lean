import Mathlib.Data.List.Find
import QueryGuard.Proofs.Validation.Run

/-!
# `QueryGuard.Proofs.Validation.Relevance`: counts that a query does not name

A verdict depends on a snapshot only through the names in the query. Two
snapshots that agree on these give the same verdict, to the letter of its
reason (`outcome_eq_of_agreeOn`).

`Snapshot.AgreeOn` lists the names: the metrics that the query refers to and
the labels that it matches on. The label for the name of the metric is not
among the latter, because its existence is not checked. Its count is read all
the same where the query compares it with a blanket pattern, and only there.

For each rule there is a congruence lemma (`missingMetric?_congr` and so on):
it reads no names but those it is given. `assess_congr` then says where these
names come from.
-/

set_option autoImplicit false

namespace QueryGuard

/-- A search depends on what it finds at the members of the list alone. -/
theorem findSome?_congr {α β : Type} {row : List α} {search other : α → Option β}
    (h : ∀ x ∈ row, search x = other x) : row.findSome? search = row.findSome? other := by
  rw [← List.head?_filterMap, List.filterMap_congr h, List.head?_filterMap]

/-- A label under a blanket pattern is one that the selector matches on,
unless it is the one for the name. -/
theorem Selector.Blankets.matchesOn {s : Selector} {label : String} (h : s.Blankets label)
    (hne : label ≠ Matcher.nameLabel) : s.MatchesOn label := by
  obtain ⟨m, hm, -, -, hlabel⟩ := h
  exact ⟨hne, m, hm, hlabel⟩

namespace Assessment

variable {policy : Policy} {query : Wording} {names : List String} {a b : Snapshot}

/-! ### What each rule reads -/

/-- The existence check of metrics reads the snapshot at the query's names only. -/
theorem missingMetric?_congr (h : ∀ x ∈ names, a.series.get? x = b.series.get? x) :
    missingMetric? names a = missingMetric? names b := by
  unfold missingMetric?
  congr 1
  refine List.find?_congr fun x hx => ?_
  unfold isMissing
  rw [h x hx]

/-- So does the existence check of labels. -/
theorem missingLabel?_congr (h : ∀ x ∈ names, a.labels.get? x = b.labels.get? x) :
    missingLabel? names a query = missingLabel? names b query := by
  unfold missingLabel?
  congr 1
  refine List.find?_congr fun x hx => ?_
  rw [h x hx]

/-- So does the series limit. -/
theorem oversizedMetric?_congr (h : ∀ x ∈ names, a.series.get? x = b.series.get? x) :
    oversizedMetric? names a policy = oversizedMetric? names b policy := by
  unfold oversizedMetric?
  congr 1
  refine findSome?_congr fun x hx => ?_
  unfold oversized?
  rw [h x hx]

/-- So does the limit on blanket regexes. -/
theorem blanketLabel?_congr (h : ∀ x ∈ names, a.labels.get? x = b.labels.get? x) :
    blanketLabel? names a policy query = blanketLabel? names b policy query := by
  unfold blanketLabel?
  -- Without a limit the first label is refused unseen, so only the search reads counts.
  congr 2
  refine findSome?_congr fun x hx => ?_
  unfold tooWide?
  rw [h x hx]

/-! ### Where the names come from -/

/-- The pooled names of a row of selectors are the names in any of them. -/
theorem mem_pooled {pick : Selector → List String} {Has : Selector → String → Prop}
    (hpick : ∀ {s x}, x ∈ pick s ↔ Has s x) {selectors : List Selector} {x : String} :
    x ∈ Text.ascending (selectors.flatMap pick) ↔ ∃ s ∈ selectors, Has s x := by
  rw [Text.mem_ascending, List.mem_flatMap]
  simp only [hpick]

/-- Two snapshots that agree on every name in the selectors give the same
finding. -/
theorem assess_congr {selectors : List Selector}
    (series : ∀ s ∈ selectors, ∀ metric, s.RefersTo metric →
      a.series.get? metric = b.series.get? metric)
    (labels : ∀ s ∈ selectors, ∀ label, s.MatchesOn label →
      a.labels.get? label = b.labels.get? label)
    (blanketName : ∀ s ∈ selectors, s.Blankets Matcher.nameLabel →
      a.labels.get? Matcher.nameLabel = b.labels.get? Matcher.nameLabel) :
    assess policy query selectors a = assess policy query selectors b := by
  have hmetrics : ∀ x ∈ metricNames selectors, a.series.get? x = b.series.get? x := by
    intro x hx
    obtain ⟨s, hs, hrefers⟩ := (mem_pooled Selector.mem_metrics).1 hx
    exact series s hs x hrefers
  have hlabels : ∀ x ∈ labelNames selectors, a.labels.get? x = b.labels.get? x := by
    intro x hx
    obtain ⟨s, hs, hmatches⟩ := (mem_pooled Selector.mem_labels).1 hx
    exact labels s hs x hmatches
  have hblankets : ∀ x ∈ blanketLabelNames selectors, a.labels.get? x = b.labels.get? x := by
    intro x hx
    obtain ⟨s, hs, hb⟩ := (mem_pooled Selector.mem_blanketLabels).1 hx
    -- A blanket regex on the name is on no label of the query's, so it has a hypothesis of
    -- its own.
    by_cases hname : x = Matcher.nameLabel
    · subst hname
      exact blanketName s hs hb
    · exact labels s hs x (hb.matchesOn hname)
  rw [assess_eq_or, assess_eq_or, missingMetric?_congr hmetrics, missingLabel?_congr hlabels,
    oversizedMetric?_congr hmetrics, blanketLabel?_congr hblankets]

end Assessment

/-! ### Whole queries -/

/-- Among the selectors that a tree reaches, their comparisons settled, there
is one with a property. -/
def Node.Has (n : Node) (P : Selector → Prop) : Prop :=
  ∃ sn sel, n.Reaches sn ∧ sn.ResolvesTo sel ∧ P sel

/-- Two snapshots agree, in presence and in count, on what a query names. The
label for the name of the metric counts only where the query compares it with
a blanket pattern. -/
structure Snapshot.AgreeOn (n : Node) (a b : Snapshot) : Prop where
  series : ∀ metric, n.Has (·.RefersTo metric) → a.series.get? metric = b.series.get? metric
  labels : ∀ label, n.Has (·.MatchesOn label) → a.labels.get? label = b.labels.get? label
  blanketName : n.Has (·.Blankets Matcher.nameLabel) →
    a.labels.get? Matcher.nameLabel = b.labels.get? Matcher.nameLabel

/-- What a tree has is what the settled selectors of its walk have. -/
theorem Node.has_iff {n : Node} {selectors : List Selector}
    (hall : List.Forall₂ SelectorNode.ResolvesTo n.walk selectors) {P : Selector → Prop} :
    n.Has P ↔ ∃ s ∈ selectors, P s := by
  constructor
  · rintro ⟨sn, sel, hreaches, hresolves, hP⟩
    obtain ⟨s, hs, hsn⟩ := exists_mem_of_forall₂ hall.flip (Node.mem_walk.2 hreaches)
    -- A selector node stands for one selector only.
    have hsame : s = sel := Except.ok.inj (hsn.symm.trans hresolves)
    exact ⟨s, hs, hsame ▸ hP⟩
  · rintro ⟨s, hs, hP⟩
    obtain ⟨sn, hsn, hresolves⟩ := exists_mem_of_forall₂ hall hs
    exact ⟨sn, s, Node.mem_walk.1 hsn, hresolves, hP⟩

namespace Validation

/-- Put together: snapshots that agree on the query's names give the same finding. -/
theorem assess_eq_of_agreeOn (policy : Policy) (query : Wording) {node : Node} {a b : Snapshot}
    {selectors : List Selector} (h : Snapshot.AgreeOn node a b)
    (hall : List.Forall₂ SelectorNode.ResolvesTo node.walk selectors) :
    Assessment.assess policy query selectors a = Assessment.assess policy query selectors b := by
  refine Assessment.assess_congr ?_ ?_ ?_
  · intro s hs metric hrefers
    exact h.series metric ((Node.has_iff hall).2 ⟨s, hs, hrefers⟩)
  · intro s hs label hmatches
    exact h.labels label ((Node.has_iff hall).2 ⟨s, hs, hmatches⟩)
  · intro s hs hblankets
    exact h.blanketName ((Node.has_iff hall).2 ⟨s, hs, hblankets⟩)

/-- Two validations of one query under one policy end alike when their
snapshots agree on what the query names. If the comparisons of the query are
known they both end with a verdict, the same one. -/
theorem outcome_eq_of_agreeOn {σ σ' : Type} {query : Wording} {tree : Except QueryError Node}
    {policy : Option Policy} {deadline deadline' : Option Number}
    {range range' : Option TimeRange} {provider : Provider σ} {provider' : Provider σ'} {s : σ}
    {s' : σ'} {a b : Snapshot} (ha : AnswersInTime deadline range provider s a)
    (hb : AnswersInTime deadline' range' provider' s' b)
    (h : ∀ node, tree = .ok node → Snapshot.AgreeOn node a b) :
    let run := validate query tree policy deadline range provider s
    let other := validate query tree policy deadline' range' provider' s'
    run.outcome = other.outcome ∧
      ((∀ node, tree = .ok node → node.Supported) →
        ∃ v, run.outcome = .verdict v ∧ other.outcome = .verdict v) := by
  intro run other
  have heq : run.outcome = other.outcome := by
    -- Without a tree or a policy no snapshot is read.
    cases tree with
    | error e => rfl
    | ok node =>
      cases policy with
      | none => rfl
      | some policy =>
        cases hmap : node.selectors.mapM SelectorNode.resolve with
        | error e =>
          exact (outcome_of_unsupported hmap).trans (outcome_of_unsupported hmap).symm
        | ok selectors =>
          have hall := mapM_resolve_eq_ok_iff.1 hmap
          have hassess := assess_eq_of_agreeOn policy query (h node rfl) hall
          rw [outcome_of_answersInTime ha hall, outcome_of_answersInTime hb hall, hassess]
  refine ⟨heq, fun supported => ?_⟩
  obtain ⟨v, hv⟩ := exists_verdict ha supported
  exact ⟨v, hv, heq.symm.trans hv⟩

/-- A limit of two series. -/
def tightPolicy : Policy where
  maxMetricCardinality := 2

/-- `upSnapshot`, with counts besides for a metric and a label that
`sumByJob` does not name. -/
def crowdedSnapshot : Snapshot :=
  ⟨Counts.ofList [("load", 9000), ("up", 3)], Counts.ofList [("__name__", 70000), ("job", 1)]⟩

/-- The sum resolves to its one selector. -/
theorem resolves_sumByJob :
    List.Forall₂ SelectorNode.ResolvesTo sumByJob.walk [⟨"up", [⟨"job", .equal, "a"⟩]⟩] := by
  rw [walk_sumByJob]
  exact .cons rfl .nil

/-- The crowded snapshot differs only in metrics and labels that the query never mentions. -/
theorem agreeOn_crowdedSnapshot : Snapshot.AgreeOn sumByJob upSnapshot crowdedSnapshot where
  -- The one metric of the query counts the same in both.
  series := by
    intro metric h
    rw [Node.has_iff resolves_sumByJob] at h
    obtain ⟨s, hs, hrefers⟩ := h
    cases List.mem_singleton.1 hs
    rcases hrefers with ⟨-, rfl⟩ | ⟨m, hm, hlabel, -⟩
    · rfl
    · cases List.mem_singleton.1 hm
      exact absurd hlabel (by decide)
  -- So does its one label.
  labels := by
    intro label h
    rw [Node.has_iff resolves_sumByJob] at h
    obtain ⟨s, hs, -, m, hm, rfl⟩ := h
    cases List.mem_singleton.1 hs
    cases List.mem_singleton.1 hm
    rfl
  -- No matcher of the query is on the name.
  blanketName := by
    intro h
    rw [Node.has_iff resolves_sumByJob] at h
    obtain ⟨s, hs, m, hm, -, -, hlabel⟩ := h
    cases List.mem_singleton.1 hs
    cases List.mem_singleton.1 hm
    exact absurd hlabel (by decide)

/-- Counts that the query does not name leave its rejection as it is. -/
theorem rejected_crowdedSnapshot :
    AnswersInTime none none (fixedProvider upSnapshot) 0 upSnapshot ∧
    AnswersInTime none none (fixedProvider crowdedSnapshot) 0 crowdedSnapshot ∧
    Snapshot.AgreeOn sumByJob upSnapshot crowdedSnapshot ∧ sumByJob.Supported ∧
    ∃ v, (validate "sum(up)" (.ok sumByJob) (some tightPolicy) none none
        (fixedProvider upSnapshot) 0).outcome = .verdict v ∧
      (validate "sum(up)" (.ok sumByJob) (some tightPolicy) none none
        (fixedProvider crowdedSnapshot) 0).outcome = .verdict v ∧
      v = .ofFinding (.metricCardinalityExceeded "up" 3 2) := by
  have ha := answersInTime_fixedProvider upSnapshot
  have hb := answersInTime_fixedProvider crowdedSnapshot
  have hagree : ∀ node, (.ok sumByJob : Except QueryError Node) = .ok node →
      Snapshot.AgreeOn node upSnapshot crowdedSnapshot := by
    rintro node ⟨⟩
    exact agreeOn_crowdedSnapshot
  have hsupported : ∀ node, (.ok sumByJob : Except QueryError Node) = .ok node →
      node.Supported := by
    rintro node ⟨⟩
    exact supported_sumByJob
  -- Only the small snapshot is assessed; the crowded one gives the same.
  obtain ⟨v, hv, hother⟩ := (outcome_eq_of_agreeOn ha hb hagree).2 hsupported
  refine ⟨ha, hb, agreeOn_crowdedSnapshot, supported_sumByJob, v, hv, hother, ?_⟩
  rw [outcome_of_answersInTime ha resolves_sumByJob] at hv
  have hassess : Assessment.assess tightPolicy "sum(up)" [⟨"up", [⟨"job", .equal, "a"⟩]⟩]
      upSnapshot = some (.metricCardinalityExceeded "up" 3 2) := by decide
  rw [hassess] at hv
  exact (Outcome.verdict.inj hv).symm

end Validation

end QueryGuard
