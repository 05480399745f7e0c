import QueryGuard.Proofs.Query.Rearranged
import QueryGuard.Proofs.Validation.Relevance

/-!
# `QueryGuard.Proofs.Validation.Rearranged`: verdicts do not depend on the order of matchers

Two trees in which the matchers of selectors stand in another order, in other groups or
more than once (`Node.Rearranged`) give the same verdict: safe or not, and by which rule.
The rules that collect names put these in order and drop the repetitions
(`pooled_congr`). The rule on the form of a selector asks whether there is a matcher of a
kind, and reports the first selector that it objects to, which stands at the same place
in both trees (`malformed?_rule`).

Only the name of that selector in the reason can differ. It is the value of the first
matcher that fixes the name, so it is the same where these matchers all fix it to one value
(`SelectorNode.FixesOneName`). `same_verdict_of_rearranged` puts this together.
-/

set_option autoImplicit false

namespace QueryGuard

/-- Two searches along rows in step that find the same at each place find the same. -/
theorem findSome?_eq_of_forall₂ {α β γ : Type} {R : α → β → Prop} {row : List α}
    {others : List β} (h : List.Forall₂ R row others) {search : α → Option γ}
    {other : β → Option γ} (hsearch : ∀ a b, R a b → search a = other b) :
    row.findSome? search = others.findSome? other := by
  induction h with
  | nil => rfl
  | cons hab _ ih => rw [List.findSome?_cons, List.findSome?_cons, hsearch _ _ hab, ih]

namespace Assessment

variable {policy : Policy} {query : Wording} {snapshot : Snapshot} {s t : Selector}
  {selectors others : List Selector}

/-! ### Pooled names -/

/-- The pooled names of two rows of selectors are the same if selectors at the same place
have the same names. -/
theorem pooled_congr {pick : Selector → List String} {Has : Selector → String → Prop}
    (hpick : ∀ {s x}, x ∈ pick s ↔ Has s x)
    (hsame : ∀ {s t}, s.Alike t → ∀ {x}, Has s x ↔ Has t x)
    (h : List.Forall₂ Selector.Alike selectors others) :
    Text.ascending (selectors.flatMap pick) = Text.ascending (others.flatMap pick) := by
  refine Text.ascending_congr fun x => ?_
  simp only [List.mem_flatMap, hpick]
  constructor
  · rintro ⟨s, hs, hx⟩
    obtain ⟨t, ht, hst⟩ := exists_mem_of_forall₂ h.flip hs
    exact ⟨t, ht, (hsame hst).1 hx⟩
  · rintro ⟨t, ht, hx⟩
    obtain ⟨s, hs, hst⟩ := exists_mem_of_forall₂ h ht
    exact ⟨s, hs, (hsame hst).2 hx⟩

/-- Alike selectors name the same metrics. -/
theorem metricNames_congr (h : List.Forall₂ Selector.Alike selectors others) :
    metricNames selectors = metricNames others :=
  pooled_congr Selector.mem_metrics Selector.Alike.refersTo_iff h

/-- Alike selectors name the same labels. -/
theorem labelNames_congr (h : List.Forall₂ Selector.Alike selectors others) :
    labelNames selectors = labelNames others :=
  pooled_congr Selector.mem_labels Selector.Alike.matchesOn_iff h

/-- Alike selectors put blanket regexes on the same labels. -/
theorem blanketLabelNames_congr (h : List.Forall₂ Selector.Alike selectors others) :
    blanketLabelNames selectors = blanketLabelNames others :=
  pooled_congr Selector.mem_blanketLabels Selector.Alike.blankets_iff h

/-! ### The form of selectors -/

/-- Whether a selector is named by a matcher does not depend on the order of its matchers. -/
theorem namesExplicitly_congr (h : s.Alike t) : namesExplicitly s = namesExplicitly t := by
  rw [Bool.eq_iff_iff, Selector.namesExplicitly_iff, Selector.namesExplicitly_iff,
    h.namedByMatcher_iff]

/-- Nor does whether any label is filtered on. -/
theorem lacksLabelMatcher_congr (h : s.Alike t) : lacksLabelMatcher s = lacksLabelMatcher t := by
  rw [Bool.eq_iff_iff, Selector.lacksLabelMatcher_iff, Selector.lacksLabelMatcher_iff,
    h.filtered_iff]

/-- What is wrong with the form of two alike selectors is wrong by one rule. -/
theorem malformed?_rule (h : s.Alike t) :
    (malformed? policy query s).map Finding.rule =
      (malformed? policy query t).map Finding.rule := by
  unfold malformed?
  rw [namesExplicitly_congr h, lacksLabelMatcher_congr h]
  split
  · rfl
  · split <;> rfl

/-- It is the same in every respect if they have one name in messages. -/
theorem malformed?_congr (h : s.Alike t) (hname : s.displayName = t.displayName) :
    malformed? policy query s = malformed? policy query t := by
  unfold malformed?
  rw [namesExplicitly_congr h, lacksLabelMatcher_congr h, hname]

-- Matchers that fix the name to two values: the first of them gives the name in the reason.
example : malformed? { requireLabelMatcher := true } "q"
      ⟨"", [⟨"__name__", .equal, "up"⟩, ⟨"__name__", .equal, "load"⟩]⟩ ≠
    malformed? { requireLabelMatcher := true } "q"
      ⟨"", [⟨"__name__", .equal, "load"⟩, ⟨"__name__", .equal, "up"⟩]⟩ := by decide

/-- The form checks break the same rule on alike selectors. -/
theorem malformedSelector?_rule (h : List.Forall₂ Selector.Alike selectors others) :
    (malformedSelector? policy query selectors).map Finding.rule =
      (malformedSelector? policy query others).map Finding.rule := by
  unfold malformedSelector?
  rw [List.map_findSome?, List.map_findSome?]
  exact findSome?_eq_of_forall₂ h fun _ _ hst => malformed?_rule hst

/-- When each selector fixes at most one name, the finding itself is the same, reason text
included. -/
theorem malformedSelector?_congr (h : List.Forall₂ Selector.Alike selectors others)
    (hone : ∀ s ∈ selectors, s.FixesOneName) :
    malformedSelector? policy query selectors = malformedSelector? policy query others :=
  findSome?_eq_of_forall₂ ((List.forall₂_and_left _ _).2 ⟨hone, h⟩) fun _ _ hst =>
    malformed?_congr hst.2 (hst.2.displayName hst.1)

/-! ### All rules -/

/-- What is found in two rows of alike selectors is found by one rule. -/
theorem assess_rule (h : List.Forall₂ Selector.Alike selectors others) :
    (assess policy query selectors snapshot).map Finding.rule =
      (assess policy query others snapshot).map Finding.rule := by
  rw [assess_eq_or, assess_eq_or]
  simp only [Option.map_or, malformedSelector?_rule h, metricNames_congr h, labelNames_congr h,
    blanketLabelNames_congr h]

/-- It is the same in every respect if no selector is named in several ways. -/
theorem assess_eq_of_alike (h : List.Forall₂ Selector.Alike selectors others)
    (hone : ∀ s ∈ selectors, s.FixesOneName) :
    assess policy query selectors snapshot = assess policy query others snapshot := by
  rw [assess_eq_or, assess_eq_or, metricNames_congr h, labelNames_congr h,
    blanketLabelNames_congr h, malformedSelector?_congr h hone]

end Assessment

namespace Validation

/-- Two trees that differ in the arrangement of the matchers within selectors, with
comparisons that are known, have verdicts that agree on whether the query is safe and on
the rule. If the matchers of each selector that fix its name fix it to one value, they
agree on the reason as well. -/
theorem same_verdict_of_rearranged {σ σ' : Type} {query : Wording} {node other : Node}
    {policy : Option Policy} {deadline deadline' : Option Number}
    {range range' : Option TimeRange} {provider : Provider σ} {provider' : Provider σ'} {s : σ}
    {s' : σ'} {snapshot : Snapshot} (ha : AnswersInTime deadline range provider s snapshot)
    (hb : AnswersInTime deadline' range' provider' s' snapshot) (h : node.Rearranged other)
    (supported : node.Supported) :
    ∃ v w, (validate query (.ok node) policy deadline range provider s).outcome = .verdict v ∧
      (validate query (.ok other) policy deadline' range' provider' s').outcome = .verdict w ∧
      v.safe = w.safe ∧ v.rule = w.rule ∧
      ((∀ sn, node.Reaches sn → sn.FixesOneName) → v.reason = w.reason) := by
  cases policy with
  | none => exact ⟨.allow, .allow, rfl, rfl, rfl, rfl, fun _ => rfl⟩
  | some policy =>
    obtain ⟨selectors, hall⟩ := supported.resolves
    obtain ⟨others, hothers⟩ := (h.supported supported).resolves
    -- Rearranged trees resolve to alike selectors, pair by pair. The verdict depends on
    -- nothing else.
    have halike := h.forall₂_alike hall hothers
    have hrule : (Assessment.assess policy query selectors snapshot).map Finding.rule =
        (Assessment.assess policy query others snapshot).map Finding.rule :=
      Assessment.assess_rule halike
    refine ⟨_, _, outcome_of_answersInTime ha hall, outcome_of_answersInTime hb hothers, ?_, ?_, ?_⟩
    · rw [Verdict.safe_ofFinding?, Verdict.safe_ofFinding?, hrule]
    · rw [Verdict.rule_ofFinding?, Verdict.rule_ofFinding?, hrule]
    · intro hone
      -- The reason shows a name, which must not depend on the order.
      have hsettled : ∀ sel ∈ selectors, sel.FixesOneName := by
        intro sel hsel
        obtain ⟨sn, hsn, hresolves⟩ := exists_mem_of_forall₂ hall hsel
        exact hresolves.fixesOneName (hone sn (Node.mem_walk.1 hsn))
      rw [Assessment.assess_eq_of_alike halike hsettled]

/-- A selector that is named by two matchers, one of them a pattern. -/
def namedTwice : SelectorNode :=
  ⟨"", [⟨"__name__", .name "=~", "u.+"⟩, ⟨"__name__", .name "=", "up"⟩], []⟩

/-- The same selector with one matcher in front and all of them in a group. -/
def namedInGroup : SelectorNode :=
  ⟨"", [⟨"__name__", .name "=", "up"⟩],
    [[⟨"__name__", .name "=", "up"⟩, ⟨"__name__", .name "=~", "u.+"⟩]]⟩

/-- A sum over a selector. -/
def sumOf (s : SelectorNode) : Node := .inner "AggregateExpr" [("expr", .selector s)] []

/-- The sum over a selector walks to that selector alone. -/
theorem walk_sumOf (s : SelectorNode) : (sumOf s).walk = [s] := by
  rw [Node.walk_of_children_eq_singleton rfl, Node.walk_selector]

/-- Moving the second name matcher into a group of alternatives is a rearrangement. -/
theorem rearranged_namedInGroup : (sumOf namedTwice).Rearranged (sumOf namedInGroup) := by
  refine .inner rfl (.cons (.selector ⟨rfl, fun m => ?_⟩) .nil) .nil
  simp [namedTwice, namedInGroup, SelectorNode.allMatchers, or_comm]

/-- Its matchers are all of the known operators. -/
theorem supported_namedTwice : (sumOf namedTwice).Supported := by
  intro s hs
  rw [← Node.mem_walk, walk_sumOf, List.mem_singleton] at hs
  subst hs
  intro m hm
  rcases List.mem_pair.1 hm with rfl | rfl
  · exact ⟨.regex, rfl⟩
  · exact ⟨.equal, rfl⟩

/-- Of its two matchers on the name, only one fixes it. -/
theorem fixesOneName_namedTwice : namedTwice.FixesOneName := by
  have hvalue : ∀ m ∈ namedTwice.allMatchers, m.operator.resolve = .ok .equal →
      m.value = "up" := by
    intro m hm hop
    rcases List.mem_pair.1 hm with rfl | rfl
    · cases hop
    · rfl
  intro m hm n hn _ hmOp _ hnOp
  rw [hvalue m hm hmOp, hvalue n hn hnOp]

/-- Both arrangements are rejected for having no matcher on a label, with one reason. -/
theorem same_verdict_namedInGroup :
    AnswersInTime none none (fixedProvider upSnapshot) 0 upSnapshot ∧
    (sumOf namedTwice).Rearranged (sumOf namedInGroup) ∧ (sumOf namedTwice).Supported ∧
    (∀ sn, (sumOf namedTwice).Reaches sn → sn.FixesOneName) ∧
    ∃ v w, (validate "q" (.ok (sumOf namedTwice)) (some filterPolicy) none none
        (fixedProvider upSnapshot) 0).outcome = .verdict v ∧
      (validate "q" (.ok (sumOf namedInGroup)) (some filterPolicy) none none
        (fixedProvider upSnapshot) 0).outcome = .verdict w ∧
      v.safe = w.safe ∧ v.rule = w.rule ∧ v.reason = w.reason ∧
      v = .ofFinding (.missingLabelMatcher "up") := by
  have ha := answersInTime_fixedProvider upSnapshot
  have hone : ∀ sn, (sumOf namedTwice).Reaches sn → sn.FixesOneName := by
    intro sn hsn
    rw [← Node.mem_walk, walk_sumOf, List.mem_singleton] at hsn
    exact hsn ▸ fixesOneName_namedTwice
  obtain ⟨v, w, hv, hw, hsafe, hrule, hreason⟩ :=
    same_verdict_of_rearranged ha ha rearranged_namedInGroup supported_namedTwice
  refine ⟨ha, rearranged_namedInGroup, supported_namedTwice, hone, v, w, hv, hw, hsafe, hrule,
    hreason hone, ?_⟩
  -- The verdict itself is read off one of the two trees.
  have hall : List.Forall₂ SelectorNode.ResolvesTo (sumOf namedTwice).walk
      [⟨"", [⟨"__name__", .regex, "u.+"⟩, ⟨"__name__", .equal, "up"⟩]⟩] := by
    rw [walk_sumOf]
    exact .cons rfl .nil
  have hassess : Assessment.assess filterPolicy "q"
      [⟨"", [⟨"__name__", .regex, "u.+"⟩, ⟨"__name__", .equal, "up"⟩]⟩] upSnapshot =
        some (.missingLabelMatcher "up") := by decide
  rw [outcome_of_answersInTime ha hall, hassess] at hv
  exact (Outcome.verdict.inj hv).symm

end Validation

end QueryGuard
