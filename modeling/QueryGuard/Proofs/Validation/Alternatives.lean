import QueryGuard.Proofs.Validation.Monotone

/-!
# `QueryGuard.Proofs.Validation.Alternatives`: the label matcher of a selector with alternatives

A policy can ask every selector for a matcher on a label other than the name.
A selector with alternative groups has all its matchers in one list when the
rule looks at it, so one group with such a matcher is enough
(`SelectorNode.Narrowed`), even where another group lets every series of a
metric through.

* `isSafe_iff_narrowed`: this is all that the rule adds to a policy.
* `narrowed_of_isSafe`: in a safe query every selector has a matcher on a
  label, in front of its groups or in one of them. With no group, or a single
  one, no alternative is without one (`SelectorNode.NarrowedThroughout`).
* `isSafe_upOfAnyJob`: with two groups an alternative can be without one.
-/

set_option autoImplicit false

namespace QueryGuard

/-! ### Matchers in front and in groups -/

/-- One of a row of matchers is on a label other than the name. -/
def NarrowedBy (row : List MatcherNode) : Prop := ∃ m ∈ row, m.label ≠ Matcher.nameLabel

instance (row : List MatcherNode) : Decidable (NarrowedBy row) :=
  inferInstanceAs (Decidable (∃ m ∈ row, m.label ≠ Matcher.nameLabel))

namespace SelectorNode

/-- A matcher narrows the selector, wherever it stands. -/
def Narrowed (s : SelectorNode) : Prop :=
  NarrowedBy s.matchers ∨ ∃ group ∈ s.groups, NarrowedBy group

/-- No alternative of the selector is without a matcher that narrows it:
either one stands in front, or each group has one of its own. -/
def NarrowedThroughout (s : SelectorNode) : Prop :=
  NarrowedBy s.matchers ∨ s.groups ≠ [] ∧ ∀ group ∈ s.groups, NarrowedBy group

instance (s : SelectorNode) : Decidable s.NarrowedThroughout :=
  inferInstanceAs (Decidable (_ ∨ _))

/-- Where there is no choice between groups, a matcher anywhere narrows the
only alternative. -/
theorem Narrowed.throughout {s : SelectorNode} (h : s.Narrowed) (hone : s.groups.length ≤ 1) :
    s.NarrowedThroughout := by
  rcases h with hfront | ⟨group, hgroup, hnarrowed⟩
  · exact .inl hfront
  · -- The only group is the one that has the matcher.
    refine .inr ⟨List.ne_nil_of_mem hgroup, fun other hother => ?_⟩
    cases hgroups : s.groups with
    | nil =>
      rw [hgroups] at hgroup
      cases hgroup
    | cons g rest =>
      rw [hgroups, List.length_cons] at hone
      have hrest : rest = [] := List.length_eq_zero_iff.1 (by omega)
      rw [hgroups, hrest, List.mem_singleton] at hgroup hother
      rwa [hother, ← hgroup]

/-- The flattened list of matchers does not tell where a matcher stands. -/
theorem narrowed_iff_allMatchers {s : SelectorNode} :
    s.Narrowed ↔ NarrowedBy s.allMatchers := by
  unfold Narrowed NarrowedBy allMatchers
  simp only [List.mem_append, List.mem_flatten]
  constructor
  · rintro (⟨m, hm, hlabel⟩ | ⟨group, hgroup, m, hm, hlabel⟩)
    · exact ⟨m, .inl hm, hlabel⟩
    · exact ⟨m, .inr ⟨group, hgroup, hm⟩, hlabel⟩
  · rintro ⟨m, hm | ⟨group, hgroup, hm⟩, hlabel⟩
    · exact .inl ⟨m, hm, hlabel⟩
    · exact .inr ⟨group, hgroup, m, hm, hlabel⟩

end SelectorNode

/-- What the rule asks of a settled selector, in terms of its node. -/
theorem SelectorNode.ResolvesTo.filtered_iff_narrowed {node : SelectorNode} {s : Selector}
    (h : node.ResolvesTo s) : s.Filtered ↔ node.Narrowed := by
  rw [SelectorNode.narrowed_iff_allMatchers]
  have hall := (SelectorNode.resolvesTo_iff.1 h).2
  constructor
  · rintro ⟨r, hr, hlabel⟩
    obtain ⟨m, hm, hresolve⟩ := exists_mem_of_forall₂ hall hr
    exact ⟨m, hm, (MatcherNode.resolve_eq_ok_iff.1 hresolve).2.1 ▸ hlabel⟩
  · rintro ⟨m, hm, hlabel⟩
    obtain ⟨r, hr, hresolve⟩ := exists_mem_of_forall₂ hall.flip hm
    refine ⟨r, hr, ?_⟩
    rwa [(MatcherNode.resolve_eq_ok_iff.1 hresolve).2.1]

/-! ### What the rule adds to a policy -/

/-- The policy without the rule that asks for a matcher on a label. -/
def Policy.withoutLabelMatcher (p : Policy) : Policy := { p with requireLabelMatcher := false }

/-- Dropping the label-matcher rule only ever relaxes a policy. -/
theorem Policy.withoutLabelMatcher_relaxes (p : Policy) : p.withoutLabelMatcher.Relaxes p where
  rules := by
    intro rule hon
    cases rule with
    | requireLabelMatcher => cases hon
    | disallowExplicitNameLabel => exact hon
    | disallowBlanketRegex => exact hon
  metricLimit := by
    show p.maxMetricCardinality = 0 ∨ p.maxMetricCardinality ≠ 0 ∧ _ ≤ p.maxMetricCardinality
    omega
  labelLimit := Nat.le_refl _

/-- The rule is one more condition on each selector, beside those of the
policy without it. -/
theorem Selector.admissible_iff_filtered {policy : Policy} (hon : policy.requireLabelMatcher = true)
    {snapshot : Snapshot} {s : Selector} :
    s.Admissible policy snapshot ↔
      s.Admissible policy.withoutLabelMatcher snapshot ∧ s.Filtered := by
  constructor
  · intro h
    exact ⟨h.mono policy.withoutLabelMatcher_relaxes (.refl snapshot), h.wellFormed.2 hon⟩
  · rintro ⟨h, hfiltered⟩
    exact {
      metricsExist := h.metricsExist
      labelsExist := h.labelsExist
      wellFormed := ⟨h.wellFormed.1, fun _ => hfiltered⟩
      metricsFit := h.metricsFit
      blanketsFit := h.blanketsFit }

namespace Validation

section
variable {σ : Type} {query : Wording} {node : Node} {policy : Policy} {deadline : Option Number}
  {range : Option TimeRange} {provider : Provider σ} {s : σ} {snapshot : Snapshot}

/-- Under a policy with the rule, a query is safe exactly when it is safe
without the rule and each of its selectors is narrowed somewhere. -/
theorem isSafe_iff_narrowed (ha : AnswersInTime deadline range provider s snapshot)
    (hon : policy.requireLabelMatcher = true) :
    (validate query (.ok node) (some policy) deadline range provider s).outcome.IsSafe ↔
      (validate query (.ok node) (some policy.withoutLabelMatcher) deadline range provider
          s).outcome.IsSafe ∧
        ∀ sn, node.Reaches sn → sn.Narrowed := by
  rw [isSafe_iff_forall_reaches ha, isSafe_iff_forall_reaches ha, ← forall_and]
  refine forall_congr' fun sn => ?_
  rw [← imp_and]
  refine imp_congr_right fun _ => ?_
  constructor
  · rintro ⟨sel, hsel, hadmissible⟩
    obtain ⟨hothers, hfiltered⟩ := (Selector.admissible_iff_filtered hon).1 hadmissible
    exact ⟨⟨sel, hsel, hothers⟩, hsel.filtered_iff_narrowed.1 hfiltered⟩
  · rintro ⟨⟨sel, hsel, hothers⟩, hnarrowed⟩
    have hfiltered := hsel.filtered_iff_narrowed.2 hnarrowed
    exact ⟨sel, hsel, (Selector.admissible_iff_filtered hon).2 ⟨hothers, hfiltered⟩⟩

/-- Under a policy that asks for a label matcher, every selector of a safe
query has one: in front of its groups or in one of them, and in each
alternative where there is no choice between groups. -/
theorem narrowed_of_isSafe (ha : AnswersInTime deadline range provider s snapshot)
    (hon : policy.requireLabelMatcher = true)
    (hsafe : (validate query (.ok node) (some policy) deadline range provider s).outcome.IsSafe) :
    ∀ sn, node.Reaches sn →
      sn.Narrowed ∧ (sn.groups.length ≤ 1 → sn.NarrowedThroughout) := by
  intro sn hsn
  have hnarrowed := ((isSafe_iff_narrowed ha hon).1 hsafe).2 sn hsn
  exact ⟨hnarrowed, hnarrowed.throughout⟩

end

/-- The metric `up` for one job or for any, as two alternative groups. -/
def upOfAnyJob : SelectorNode :=
  ⟨"", [], [[⟨"__name__", .name "=", "up"⟩, ⟨"job", .name "=", "a"⟩],
    [⟨"__name__", .name "=", "up"⟩]]⟩

/-- The selector with alternatives resolves to the matchers of both groups in one row. -/
theorem resolves_upOfAnyJob :
    upOfAnyJob.ResolvesTo ⟨"", [⟨"__name__", .equal, "up"⟩, ⟨"job", .equal, "a"⟩,
      ⟨"__name__", .equal, "up"⟩]⟩ := rfl

/-- A selector without alternatives resolves to its own name and matchers. -/
theorem resolves_upByJob : upByJob.ResolvesTo ⟨"up", [⟨"job", .equal, "a"⟩]⟩ := rfl

/-- Every matcher the alternatives write is one of the four known operators. -/
theorem supported_upOfAnyJob : upOfAnyJob.Supported := by
  intro m hm
  simp only [upOfAnyJob, SelectorNode.allMatchers, List.flatten_cons, List.flatten_nil,
    List.nil_append, List.append_nil, List.cons_append, List.mem_cons, List.not_mem_nil,
    or_false] at hm
  rcases hm with rfl | rfl | rfl <;> exact ⟨.equal, rfl⟩

/-- A difference of the two selectors `upOfAnyJob` and `upByJob`. -/
def anyMinusOne : Node := .binary "BinaryExpr" (.selector upOfAnyJob) (.selector upByJob)

/-- The subtraction's children are its two operands, left before right. -/
theorem children_anyMinusOne :
    anyMinusOne.children = [.selector upOfAnyJob, .selector upByJob] :=
  Node.children_binary "BinaryExpr" rfl rfl

/-- The difference passes although an alternative of its left operand filters by no label. -/
theorem isSafe_anyMinusOne (query : Wording) :
    (validate query (.ok anyMinusOne) (some filterPolicy) none none
      (fixedProvider upSnapshot) 0).outcome.IsSafe := by
  have hwalk : anyMinusOne.walk = [upOfAnyJob, upByJob] := by
    rw [anyMinusOne, Node.walk_binary _ rfl rfl, Node.walk_selector, Node.walk_selector]
    rfl
  rw [isSafe_iff_forall_reaches (answersInTime_fixedProvider upSnapshot)]
  intro sn hsn
  rw [← Node.mem_walk, hwalk, List.mem_pair] at hsn
  rcases hsn with rfl | rfl
  · exact ⟨_, resolves_upOfAnyJob, by decide⟩
  · exact ⟨_, resolves_upByJob, by decide⟩

/-- In a safe difference, the selector with two groups is narrowed by one of
them, and the one without groups on the whole. -/
theorem narrowed_anyMinusOne :
    AnswersInTime none none (fixedProvider upSnapshot) 0 upSnapshot ∧
    filterPolicy.requireLabelMatcher = true ∧
    (validate "a - b" (.ok anyMinusOne) (some filterPolicy) none none
      (fixedProvider upSnapshot) 0).outcome.IsSafe ∧
    anyMinusOne.Reaches upOfAnyJob ∧ anyMinusOne.Reaches upByJob ∧
    upOfAnyJob.Narrowed ∧ upByJob.NarrowedThroughout := by
  have ha := answersInTime_fixedProvider upSnapshot
  have hsafe := isSafe_anyMinusOne "a - b"
  have hany : anyMinusOne.Reaches upOfAnyJob :=
    .child (by simp [children_anyMinusOne]) .here
  have hone : anyMinusOne.Reaches upByJob := .child (by simp [children_anyMinusOne]) .here
  have hall := narrowed_of_isSafe ha rfl hsafe
  exact ⟨ha, rfl, hsafe, hany, hone, (hall _ hany).1, (hall _ hone).2 (Nat.zero_le 1)⟩

/-- A query is safe although the second alternative of its selector has no
matcher but the one on the name. -/
theorem isSafe_upOfAnyJob :
    AnswersInTime none none (fixedProvider upSnapshot) 0 upSnapshot ∧
    filterPolicy.requireLabelMatcher = true ∧ (Node.selector upOfAnyJob).Supported ∧
    (validate "\x7b__name__=\"up\", job=\"a\" or __name__=\"up\"\x7d"
      (.ok (.selector upOfAnyJob)) (some filterPolicy) none none
      (fixedProvider upSnapshot) 0).outcome.IsSafe ∧
    (Node.selector upOfAnyJob).Reaches upOfAnyJob ∧ ¬ upOfAnyJob.NarrowedThroughout := by
  have ha := answersInTime_fixedProvider upSnapshot
  refine ⟨ha, rfl, Node.supported_selector_iff.2 supported_upOfAnyJob, ?_, .here, by decide⟩
  rw [isSafe_iff_assess ha, Node.walk_selector]
  exact ⟨_, .cons resolves_upOfAnyJob .nil, by decide⟩

end Validation

end QueryGuard
