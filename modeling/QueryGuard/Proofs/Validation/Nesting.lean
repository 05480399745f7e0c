import QueryGuard.Proofs.Assessment.Stage
import QueryGuard.Proofs.Validation.Run

/-!
# `QueryGuard.Proofs.Validation.Nesting`: nesting does not launder a selector

The rule of a query is that of one of the operands of its outermost node:
the one rejected at the earliest stage, the leftmost if there are several.
`rated_inner` states this for every node that is no selector, with what it
means for two operands and for a node around a single one.

`Rated` is the rule of a tree under a policy and a snapshot, whatever the
text that the tree was read from and the provider that has the snapshot.
-/

set_option autoImplicit false

namespace QueryGuard

namespace Validation

open Assessment (foundRule earliest)

/-- A tree has a rule under a policy and a snapshot: every validation of a
query with this tree that gets the snapshot in time ends with a verdict of
that rule, which is safe if there is none. -/
def Rated (policy : Policy) (snapshot : Snapshot) (node : Node) (rule : Option Rule) : Prop :=
  ∀ (σ : Type) (query : Wording) (deadline : Option Number) (range : Option TimeRange)
    (provider : Provider σ) (s : σ), AnswersInTime deadline range provider s snapshot →
    ∃ v, (validate query (.ok node) (some policy) deadline range provider s).outcome =
        .verdict v ∧ v.rule = rule ∧ v.safe = rule.isNone

section
variable {policy : Policy} {snapshot : Snapshot} {node : Node} {rule : Option Rule}

/-- The rule of a tree is what its selectors break. -/
theorem rated_iff :
    Rated policy snapshot node rule ↔
      ∃ selectors, List.Forall₂ SelectorNode.ResolvesTo node.walk selectors ∧
        foundRule policy snapshot selectors = rule := by
  constructor
  · intro h
    -- A provider that has the snapshot at hand shows which rule it is.
    have ha := answersInTime_fixedProvider snapshot
    obtain ⟨v, hv, rfl, -⟩ := h Nat "" none none (fixedProvider snapshot) 0 ha
    obtain ⟨selectors, hall, rfl⟩ := (outcome_eq_verdict_iff ha).1 hv
    exact ⟨selectors, hall, (Verdict.rule_ofFinding? _).symm⟩
  · rintro ⟨selectors, hall, rfl⟩ σ query deadline range provider s ha
    refine ⟨_, outcome_of_answersInTime ha hall, ?_, ?_⟩
    · rw [Verdict.rule_ofFinding?, Assessment.map_rule_assess]
    · rw [Verdict.safe_ofFinding?, Assessment.map_rule_assess]

/-- A tree with known comparisons has a rule. -/
theorem exists_rated (h : node.Supported) : ∃ rule, Rated policy snapshot node rule := by
  obtain ⟨selectors, hall⟩ := h.resolves
  exact ⟨_, rated_iff.2 ⟨selectors, hall, rfl⟩⟩

/-- Rating a row of trees one by one, or all their selectors together. -/
theorem exists_rated_row_iff {nodes : List Node} :
    (∃ selectors, List.Forall₂ SelectorNode.ResolvesTo (nodes.flatMap Node.walk) selectors ∧
        foundRule policy snapshot selectors = rule) ↔
      ∃ rules, List.Forall₂ (Rated policy snapshot) nodes rules ∧ earliest rules = rule := by
  -- Along the row: the selectors of the first tree, then those of the others.
  induction nodes generalizing rule with
  | nil =>
    simp only [List.flatMap_nil, List.forall₂_nil_left_iff, exists_eq_left,
      Assessment.foundRule_nil, Assessment.earliest_nil]
  | cons n rest ih =>
    rw [List.flatMap_cons]
    constructor
    · rintro ⟨selectors, hall, rfl⟩
      obtain ⟨own, others, hown, hothers, rfl⟩ := forall₂_append_left_iff.1 hall
      obtain ⟨rules, hrules, hearliest⟩ := ih.1 ⟨others, hothers, rfl⟩
      refine ⟨_ :: rules, .cons (rated_iff.2 ⟨own, hown, rfl⟩) hrules, ?_⟩
      rw [Assessment.earliest_cons, hearliest, Assessment.foundRule_append]
    · rintro ⟨_, hrules, rfl⟩
      cases hrules with
      | @cons _ first _ rules hfirst hrules =>
        obtain ⟨own, hown, rfl⟩ := rated_iff.1 hfirst
        obtain ⟨others, hothers, hearliest⟩ := ih.2 ⟨rules, hrules, rfl⟩
        refine ⟨own ++ others, forall₂_append_left_iff.2 ⟨own, others, hown, hothers, rfl⟩, ?_⟩
        rw [Assessment.earliest_cons, ← hearliest, Assessment.foundRule_append]

/-- An inner node is rated by its children: each has a rule of its own, and the earliest of
them is the node's. -/
theorem rated_inner_iff {kind : String} {fields : List (String × Node)} {args : List Node} :
    Rated policy snapshot (.inner kind fields args) rule ↔
      ∃ rules, List.Forall₂ (Rated policy snapshot)
          (Node.children (.inner kind fields args)) rules ∧ earliest rules = rule := by
  rw [rated_iff, Node.walk_inner, exists_rated_row_iff]

/-- A wrapper around one child is rated exactly as the child. -/
theorem rated_of_children_eq_singleton {c : Node} (h : node.children = [c]) :
    Rated policy snapshot node rule ↔ Rated policy snapshot c rule := by
  rw [rated_iff, rated_iff, Node.walk_of_children_eq_singleton h]

/-- A tree has at most one rule. -/
theorem Rated.unique {other : Option Rule} (h : Rated policy snapshot node rule)
    (h' : Rated policy snapshot node other) : rule = other := by
  have ha := answersInTime_fixedProvider snapshot
  obtain ⟨v, hv, rfl, -⟩ := h Nat "" none none (fixedProvider snapshot) 0 ha
  obtain ⟨w, hw, rfl, -⟩ := h' Nat "" none none (fixedProvider snapshot) 0 ha
  rw [Outcome.verdict.inj (hv.symm.trans hw)]

/-- A node with two children is safe when both are. -/
theorem rated_none_of_children_eq_pair {kind : String} {fields : List (String × Node)}
    {args : List Node} {l r : Node} (h : Node.children (.inner kind fields args) = [l, r]) :
    Rated policy snapshot (.inner kind fields args) none ↔
      Rated policy snapshot l none ∧ Rated policy snapshot r none := by
  rw [rated_inner_iff, h]
  constructor
  · rintro ⟨rules, hrules, hearliest⟩
    cases hrules with
    | @cons _ a _ _ hl hrest =>
      cases hrest with
      | @cons _ b _ _ hr hnil =>
        cases hnil
        -- The earliest of two is absent only if both are.
        rw [Assessment.earliest_cons, Assessment.earliest_cons, Assessment.earliest_nil,
          Assessment.meet_none_right, Assessment.meet_eq_none_iff] at hearliest
        obtain ⟨rfl, rfl⟩ := hearliest
        exact ⟨hl, hr⟩
  · rintro ⟨hl, hr⟩
    exact ⟨[none, none], .cons hl (.cons hr .nil), rfl⟩

end

/-- The filtered selector breaks no rule. -/
theorem rated_upByJob : Rated filterPolicy upSnapshot (.selector upByJob) none := by
  rw [rated_iff, Node.walk_selector]
  exact ⟨[⟨"up", [⟨"job", .equal, "a"⟩]⟩], .cons rfl .nil, by decide⟩

/-- The bare selector breaks the label-matcher rule. -/
theorem rated_upAlone :
    Rated filterPolicy upSnapshot (.selector upAlone) (some .missingLabelMatcher) := by
  rw [rated_iff, Node.walk_selector]
  exact ⟨[⟨"up", []⟩], .cons rfl .nil, by decide⟩

/-- The rule of a node is the rule of its leftmost child among those that are
rejected at the earliest stage. A node without children is safe, one with two
operands is safe when both are, and a node around another one changes
nothing. -/
theorem rated_inner (policy : Policy) (snapshot : Snapshot) {kind : String}
    {fields : List (String × Node)} {args : List Node}
    (h : (Node.inner kind fields args).Supported) :
    (∃ rules, List.Forall₂ (Rated policy snapshot)
        (Node.children (.inner kind fields args)) rules ∧
      ∀ rule, Rated policy snapshot (.inner kind fields args) rule ↔ rule = earliest rules) ∧
    (Node.children (.inner kind fields args) = [] →
      Rated policy snapshot (.inner kind fields args) none) ∧
    (∀ l r, Node.inner kind fields args = .binary kind l r → l.isExpression = true →
      r.isExpression = true →
      (Rated policy snapshot (.inner kind fields args) none ↔
        Rated policy snapshot l none ∧ Rated policy snapshot r none)) ∧
    (∀ c, Node.Wraps c (.inner kind fields args) → c.isExpression = true →
      ∀ rule, Rated policy snapshot (.inner kind fields args) rule ↔
        Rated policy snapshot c rule) := by
  refine ⟨?_, fun hnil => ?_, fun l r hbinary hl hr => ?_, fun c hwraps hc rule => ?_⟩
  · obtain ⟨rule, hrule⟩ := exists_rated h
    obtain ⟨rules, hrules, rfl⟩ := rated_inner_iff.1 hrule
    refine ⟨rules, hrules, fun rule => ⟨fun hr => hr.unique hrule, ?_⟩⟩
    rintro rfl
    exact hrule
  · refine rated_inner_iff.2 ⟨[], ?_, rfl⟩
    rw [hnil]
    exact .nil
  · refine rated_none_of_children_eq_pair ?_
    rw [hbinary]
    exact Node.children_binary kind hl hr
  · exact rated_of_children_eq_singleton (hwraps.children_eq hc)

/-- An operand with a matcher on a label does not make up for the other. -/
theorem rated_upByJob_upAlone :
    (Node.binary "BinaryExpr" (.selector upByJob) (.selector upAlone)).Supported ∧
    Rated filterPolicy upSnapshot
      (.binary "BinaryExpr" (.selector upByJob) (.selector upAlone))
      (some .missingLabelMatcher) := by
  have hchildren : Node.children (.binary "BinaryExpr" (.selector upByJob) (.selector upAlone)) =
      [.selector upByJob, .selector upAlone] := Node.children_binary "BinaryExpr" rfl rfl
  have hsupported :
      (Node.binary "BinaryExpr" (.selector upByJob) (.selector upAlone)).Supported := by
    refine Node.supported_inner_iff.2 fun c hc => ?_
    rw [← Node.binary, hchildren] at hc
    rcases List.mem_pair.1 hc with rfl | rfl
    · exact Node.supported_selector_iff.2 supported_upByJob
    · exact Node.supported_selector_iff.2 supported_upAlone
  obtain ⟨⟨rules, hrules, hrated⟩, -⟩ := rated_inner filterPolicy upSnapshot hsupported
  rw [← Node.binary, hchildren] at hrules
  -- Ratings are unique, so the two operands have the two rules found before.
  cases hrules with
  | @cons _ a _ _ hl hrest =>
    cases hrest with
    | @cons _ b _ _ hr hnil =>
      cases hnil
      cases hl.unique rated_upByJob
      cases hr.unique rated_upAlone
      exact ⟨hsupported, (hrated (some .missingLabelMatcher)).2 rfl⟩

end Validation

end QueryGuard
