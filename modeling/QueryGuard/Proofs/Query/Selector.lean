import Mathlib.Data.List.Forall2
import QueryGuard.Proofs.Query.Walk
import QueryGuard.Query.Selector

/-!
# `QueryGuard.Proofs.Query.Selector`: what a selector reads

The rules do not look at selectors as such but at the names in them. Each
kind of name has a predicate here that says it in terms of the matchers,
and a lemma that the computed list holds exactly those names:

* `RefersTo` / `mem_metrics`: the metrics, by the name in front or by a
  matcher that fixes the name.
* `MatchesOn` / `mem_labels`: the labels, the one for the name aside.
* `Blankets` / `mem_blanketLabels`: the labels under a blanket pattern.
* `ShownAs` / `shownAs_iff`: what a message calls the selector.

Before that, `SelectorNode.resolve` has to settle every comparison.
`Node.Supported` says that it can, and `Node.Supported.resolves` gives the
settled selectors, one for each selector of the walk.
-/

set_option autoImplicit false

namespace QueryGuard

/-! ### Settling comparisons -/

section
variable {ε α β : Type} {f : α → Except ε β}

/-- A row of steps succeeds when each of them does, in step with the
results. -/
theorem mapM_eq_ok_iff {row : List α} {results : List β} :
    row.mapM f = .ok results ↔ List.Forall₂ (fun a b => f a = .ok b) row results := by
  induction row generalizing results with
  | nil =>
    show Except.ok [] = Except.ok results ↔ _
    rw [List.forall₂_nil_left_iff, Except.ok.injEq, eq_comm]
  | cons a rest ih =>
    rw [List.mapM_cons]
    -- The first failure ends the row, so each step has to be tried in turn.
    cases ha : f a with
    | error e =>
      refine ⟨nofun, fun h => ?_⟩
      cases h with
      | cons hab _ => exact nomatch ha.symm.trans hab
    | ok b =>
      cases hrest : rest.mapM f with
      | error e =>
        refine ⟨nofun, fun h => ?_⟩
        cases h with
        | cons _ htail => exact nomatch hrest.symm.trans (ih.2 htail)
      | ok bs =>
        show Except.ok (b :: bs) = Except.ok results ↔ _
        rw [Except.ok.injEq]
        constructor
        · rintro rfl
          exact .cons ha (ih.1 hrest)
        · intro h
          cases h with
          | cons hab htail =>
            rw [Except.ok.inj (ha.symm.trans hab)]
            rw [Except.ok.inj (hrest.symm.trans (ih.2 htail))]

end

/-- The results of a row and another one are those of the first, then those
of the second. -/
theorem forall₂_append_left_iff {α β : Type} {R : α → β → Prop} {row others : List α}
    {results : List β} :
    List.Forall₂ R (row ++ others) results ↔
      ∃ left right, List.Forall₂ R row left ∧ List.Forall₂ R others right ∧
        results = left ++ right := by
  induction row generalizing results with
  | nil => simp
  | cons a rest ih =>
    rw [List.cons_append]
    constructor
    · intro h
      cases h with
      | @cons _ b _ bs hab htail =>
        obtain ⟨left, right, hleft, hright, rfl⟩ := ih.1 htail
        exact ⟨b :: left, right, .cons hab hleft, hright, rfl⟩
    · rintro ⟨_, right, hleft, hright, rfl⟩
      cases hleft with
      | @cons _ b _ left hab hleft => exact .cons hab (ih.2 ⟨left, right, hleft, hright, rfl⟩)

/-- A row of results that all have a property is a result with the property
for each member of the row. -/
theorem exists_forall₂_iff {α β : Type} {R : α → β → Prop} {P : β → Prop} {row : List α} :
    (∃ results, List.Forall₂ R row results ∧ ∀ b ∈ results, P b) ↔
      ∀ a ∈ row, ∃ b, R a b ∧ P b := by
  induction row with
  | nil => simp
  | cons a rest ih =>
    rw [List.forall_mem_cons, ← ih]
    constructor
    · rintro ⟨results, hall, hresults⟩
      cases hall with
      | @cons _ b _ bs hab hbs =>
        rw [List.forall_mem_cons] at hresults
        exact ⟨⟨b, hab, hresults.1⟩, bs, hbs, hresults.2⟩
    · rintro ⟨⟨b, hab, hb⟩, bs, hbs, hresults⟩
      exact ⟨b :: bs, .cons hab hbs, List.forall_mem_cons.2 ⟨hb, hresults⟩⟩

/-- Where each has a result, the row has a row of results. -/
theorem exists_forall₂ {α β : Type} {R : α → β → Prop} {row : List α}
    (h : ∀ a ∈ row, ∃ b, R a b) : ∃ results, List.Forall₂ R row results := by
  obtain ⟨results, hall, -⟩ := exists_forall₂_iff.2 fun a ha => (h a ha).imp fun _ hb =>
    And.intro hb trivial
  exact ⟨results, hall⟩

/-- Each result comes from a member of the row. -/
theorem exists_mem_of_forall₂ {α β : Type} {R : α → β → Prop} {row : List α}
    {results : List β} (h : List.Forall₂ R row results) {b : β} (hb : b ∈ results) :
    ∃ a ∈ row, R a b := by
  induction h with
  | nil => cases hb
  | @cons a c rest others hac _ ih =>
    rcases List.mem_cons.1 hb with rfl | hb
    · exact ⟨a, List.mem_cons_self, hac⟩
    · obtain ⟨a', ha', hab⟩ := ih hb
      exact ⟨a', List.mem_cons_of_mem a ha', hab⟩

/-- Every comparison of a selector is one of the four. -/
def SelectorNode.Supported (s : SelectorNode) : Prop :=
  ∀ m ∈ s.allMatchers, ∃ op, m.operator.resolve = .ok op

/-- Every comparison of the selectors that a tree reaches is one of the
four. -/
def Node.Supported (n : Node) : Prop := ∀ s, n.Reaches s → s.Supported

/-- A selector node stands for a selector, its comparisons settled. -/
def SelectorNode.ResolvesTo (node : SelectorNode) (s : Selector) : Prop := node.resolve = .ok s

/-- Settling a matcher settles its comparison and leaves the rest of it. -/
theorem MatcherNode.resolve_eq_ok_iff {m : MatcherNode} {r : Matcher} :
    m.resolve = .ok r ↔ m.operator.resolve = .ok r.op ∧ r.label = m.label ∧ r.value = m.value := by
  obtain ⟨label, op, value⟩ := r
  unfold MatcherNode.resolve
  cases m.operator.resolve with
  | error e => exact ⟨nofun, fun h => nomatch h.1⟩
  | ok settled =>
    show Except.ok (Matcher.mk m.label settled m.value) = _ ↔ _
    simp only [Except.ok.injEq, Matcher.mk.injEq]
    constructor
    · rintro ⟨rfl, rfl, rfl⟩
      exact ⟨rfl, rfl, rfl⟩
    · rintro ⟨rfl, rfl, rfl⟩
      exact ⟨rfl, rfl, rfl⟩

/-- A settled selector has the name of its node, and the matchers of the node, in front
and in groups. -/
theorem SelectorNode.resolvesTo_iff {node : SelectorNode} {s : Selector} :
    node.ResolvesTo s ↔ s.name = node.name ∧
      List.Forall₂ (fun m r => MatcherNode.resolve m = .ok r) node.allMatchers s.matchers := by
  obtain ⟨name, matchers⟩ := s
  rw [← mapM_eq_ok_iff]
  unfold ResolvesTo resolve
  cases node.allMatchers.mapM MatcherNode.resolve with
  | error e => exact ⟨nofun, fun h => nomatch h.2⟩
  | ok settled =>
    show Except.ok (Selector.mk node.name settled) = _ ↔ _
    simp only [Except.ok.injEq, Selector.mk.injEq]
    exact and_congr_left' eq_comm

/-- A selector is resolved if all of its comparisons are known. -/
theorem SelectorNode.Supported.resolves {node : SelectorNode} (h : node.Supported) :
    ∃ s, node.ResolvesTo s := by
  have hmatchers : ∀ m ∈ node.allMatchers, ∃ r, m.resolve = .ok r := by
    intro m hm
    obtain ⟨op, hop⟩ := h m hm
    exact ⟨⟨m.label, op, m.value⟩, MatcherNode.resolve_eq_ok_iff.2 ⟨hop, rfl, rfl⟩⟩
  obtain ⟨matchers, hall⟩ := exists_forall₂ hmatchers
  exact ⟨⟨node.name, matchers⟩, SelectorNode.resolvesTo_iff.2 ⟨rfl, hall⟩⟩

/-- The selectors of a tree with known comparisons can all be settled. -/
theorem Node.Supported.resolves {n : Node} (h : n.Supported) :
    ∃ selectors, List.Forall₂ SelectorNode.ResolvesTo n.walk selectors :=
  exists_forall₂ fun s hs => (h s (Node.mem_walk.1 hs)).resolves

/-- A tree that is a selector is supported if the selector is. -/
theorem Node.supported_selector_iff {s : SelectorNode} :
    (Node.selector s).Supported ↔ s.Supported := by
  refine ⟨fun h => h s .here, fun h t ht => ?_⟩
  rw [← Node.mem_walk, Node.walk_selector, List.mem_singleton] at ht
  rwa [ht]

/-- Any other tree is supported if all of its children are. -/
theorem Node.supported_inner_iff {kind : String} {fields : List (String × Node)}
    {args : List Node} :
    (Node.inner kind fields args).Supported ↔
      ∀ c ∈ Node.children (.inner kind fields args), c.Supported := by
  unfold Node.Supported
  simp only [Node.reaches_inner]
  constructor
  · intro h c hc s hs
    exact h s ⟨c, hc, hs⟩
  · rintro h s ⟨c, hc, hs⟩
    exact h c hc s hs

/-- Settling the selectors that a tree yields: one for each selector of the
walk. -/
theorem mapM_resolve_eq_ok_iff {n : Node} {selectors : List Selector} :
    n.selectors.mapM SelectorNode.resolve = .ok selectors ↔
      List.Forall₂ SelectorNode.ResolvesTo n.walk selectors := by
  rw [Node.selectors_eq_walk]
  exact mapM_eq_ok_iff

/-! ### The names in a selector -/

namespace Matcher

/-- The test for matchers on the name. -/
theorem isOnName_iff {m : Matcher} : m.isOnName = true ↔ m.label = nameLabel := by
  simp [isOnName]

/-- A matcher is not on the name if its label is another one. -/
theorem isOnName_eq_false_iff {m : Matcher} : m.isOnName = false ↔ m.label ≠ nameLabel := by
  simp [isOnName]

/-- A matcher fixes the name if it compares the name for equality. -/
theorem fixesName_iff {m : Matcher} :
    m.fixesName = true ↔ m.label = nameLabel ∧ m.op = .equal := by
  simp [fixesName, isOnName]

/-- A blanket is one of two patterns under one of two comparisons. -/
theorem isBlanket_iff {m : Matcher} :
    m.isBlanket = true ↔
      (m.op = .regex ∨ m.op = .notRegex) ∧ (m.value = ".*" ∨ m.value = ".+") := by
  obtain ⟨label, op, value⟩ := m
  cases op <;> simp [isBlanket, isRegex, MatchOp.isRegex, blanketPatterns]

end Matcher

namespace Selector

/-- A selector refers to a metric: by the name in front, or by a matcher
that fixes the name. -/
def RefersTo (s : Selector) (metric : String) : Prop :=
  (s.name ≠ "" ∧ s.name = metric) ∨
    ∃ m ∈ s.matchers, m.label = Matcher.nameLabel ∧ m.op = .equal ∧ m.value = metric

/-- A selector matches on a label, other than the one for the name. -/
def MatchesOn (s : Selector) (label : String) : Prop :=
  label ≠ Matcher.nameLabel ∧ ∃ m ∈ s.matchers, m.label = label

/-- A selector compares a label with a blanket pattern, for or against. The
label may be the one for the name. -/
def Blankets (s : Selector) (label : String) : Prop :=
  ∃ m ∈ s.matchers, (m.op = .regex ∨ m.op = .notRegex) ∧
    (m.value = ".*" ∨ m.value = ".+") ∧ m.label = label

/-- A selector has no name in front and a matcher on the name instead. -/
def NamedByMatcher (s : Selector) : Prop :=
  s.name = "" ∧ ∃ m ∈ s.matchers, m.label = Matcher.nameLabel

/-- A matcher narrows a selector: one on a label other than the name. -/
def Filtered (s : Selector) : Prop := ∃ m ∈ s.matchers, m.label ≠ Matcher.nameLabel

/-- What a message calls a selector: the name in front; or else the value of
the first matcher that fixes the name; or else that it has none. -/
inductive ShownAs (s : Selector) : String → Prop where
  | inFront (h : s.name ≠ "") : ShownAs s s.name
  | fixed {before after : List Matcher} {m : Matcher} (h : s.name = "")
      (split : s.matchers = before ++ m :: after)
      (first : ∀ b ∈ before, ¬ (b.label = Matcher.nameLabel ∧ b.op = .equal))
      (label : m.label = Matcher.nameLabel) (op : m.op = .equal) : ShownAs s m.value
  | unnamed (h : s.name = "")
      (none : ∀ m ∈ s.matchers, ¬ (m.label = Matcher.nameLabel ∧ m.op = .equal)) :
      ShownAs s "<unnamed selector>"

/-- The metrics of a selector are those that it refers to. -/
theorem mem_metrics {s : Selector} {metric : String} :
    metric ∈ s.metrics ↔ s.RefersTo metric := by
  unfold metrics RefersTo
  rw [List.mem_append]
  refine or_congr ?_ ?_
  · by_cases h : s.name = ""
    · simp [h]
    · rw [if_neg h, List.mem_singleton, eq_comm]
      exact (and_iff_right h).symm
  · simp only [List.mem_map, List.mem_filter, Matcher.fixesName_iff, and_assoc]

/-- The labels of a selector are those that it matches on. -/
theorem mem_labels {s : Selector} {label : String} : label ∈ s.labels ↔ s.MatchesOn label := by
  unfold labels MatchesOn
  rw [List.mem_map]
  constructor
  · rintro ⟨m, hm, rfl⟩
    simp only [List.mem_filter, Bool.not_eq_true', Matcher.isOnName_eq_false_iff] at hm
    exact ⟨hm.2, m, hm.1, rfl⟩
  · rintro ⟨hne, m, hm, rfl⟩
    refine ⟨m, ?_, rfl⟩
    simp only [List.mem_filter, Bool.not_eq_true', Matcher.isOnName_eq_false_iff]
    exact ⟨hm, hne⟩

/-- The blanket labels of a selector are those that it has a blanket on. -/
theorem mem_blanketLabels {s : Selector} {label : String} :
    label ∈ s.blanketLabels ↔ s.Blankets label := by
  simp only [blanketLabels, Blankets, List.mem_map, List.mem_filter, Matcher.isBlanket_iff,
    and_assoc]

/-- A selector with a name is shown by it. -/
theorem displayName_of_name {s : Selector} (h : s.name ≠ "") : s.displayName = s.name := by
  rw [displayName, if_neg h]

/-- A selector without a name is shown by the first that a matcher fixes. -/
theorem displayName_of_find? {s : Selector} (h : s.name = "") {m : Matcher}
    (hm : s.matchers.find? Matcher.fixesName = some m) : s.displayName = m.value := by
  rw [displayName, if_pos h, hm]

/-- A selector that nothing names is shown as that. -/
theorem displayName_of_find?_none {s : Selector} (h : s.name = "")
    (hm : s.matchers.find? Matcher.fixesName = none) : s.displayName = unnamed := by
  rw [displayName, if_pos h, hm]

/-- A selector is shown in one way. -/
theorem shownAs_iff {s : Selector} {text : String} : s.ShownAs text ↔ text = s.displayName := by
  -- The search passes over exactly the matchers that `ShownAs.fixed` passes over.
  have hfixes (m : Matcher) :
      (!m.fixesName) = true ↔ ¬ (m.label = Matcher.nameLabel ∧ m.op = .equal) := by
    rw [← Matcher.fixesName_iff, Bool.not_eq_true', Bool.not_eq_true]
  constructor
  · intro h
    cases h with
    | inFront h => rw [displayName_of_name h]
    | @fixed before after m h split first label op =>
      refine (displayName_of_find? h ?_).symm
      rw [List.find?_eq_some_iff_append]
      exact ⟨Matcher.fixesName_iff.2 ⟨label, op⟩, before, after, split,
        fun b hb => (hfixes b).2 (first b hb)⟩
    | unnamed h none =>
      refine (displayName_of_find?_none h ?_).symm
      rw [List.find?_eq_none]
      exact fun m hm hfix => none m hm (Matcher.fixesName_iff.1 hfix)
  · rintro rfl
    by_cases h : s.name = ""
    · cases hm : s.matchers.find? Matcher.fixesName with
      | none =>
        rw [displayName_of_find?_none h hm]
        rw [List.find?_eq_none] at hm
        exact .unnamed h fun m hmem hfix => hm m hmem (Matcher.fixesName_iff.2 hfix)
      | some m =>
        rw [displayName_of_find? h hm]
        obtain ⟨hfix, before, after, split, first⟩ := List.find?_eq_some_iff_append.1 hm
        obtain ⟨label, op⟩ := Matcher.fixesName_iff.1 hfix
        exact .fixed h split (fun b hb => (hfixes b).1 (first b hb)) label op
    · rw [displayName_of_name h]
      exact .inFront h

end Selector

end QueryGuard
