import QueryGuard.Proofs.Query.InStep
import QueryGuard.Proofs.Query.Selector

/-!
# `QueryGuard.Proofs.Query.Rearranged`: matchers in another order

The matchers of a selector can be written in one order or another, some of them more than
once, in front of the alternative groups or in one of these. Two selectors that differ in
no more are `SelectorNode.Rearranged`, and so are two trees in which the selectors at
the same places are (`Node.Rearranged`).

The walk goes through both trees in step (`Node.Rearranged.walk`), and where all
comparisons are known the settled selectors have the same name and the same matchers, as a
set (`Selector.Alike`). So they refer to the same metrics and match on the same labels.
The name in messages can differ, because the first matcher that fixes the name gives it:
`Selector.Alike.displayName` asks for selectors whose matchers agree on the name.
-/

set_option autoImplicit false

namespace QueryGuard

/-! ### Selectors and trees -/

/-- Two selectors have one name and the same matchers, wherever these stand and however
often. -/
structure SelectorNode.Rearranged (a b : SelectorNode) : Prop where
  name : a.name = b.name
  matchers : ∀ m, m ∈ a.allMatchers ↔ m ∈ b.allMatchers

namespace Node

/-- Two trees differ in nothing but the arrangement of the matchers within selectors. -/
inductive Rearranged : Node → Node → Prop where
  | selector {s t : SelectorNode} (h : s.Rearranged t) : Rearranged (.selector s) (.selector t)
  | inner {kind : String} {fields others : List (String × Node)} {args rest : List Node}
    (names : fields.map (·.1) = others.map (·.1))
    (values : List.Forall₂ Rearranged (fields.map (·.2)) (others.map (·.2)))
    (arguments : List.Forall₂ Rearranged args rest) :
    Rearranged (.inner kind fields args) (.inner kind others rest)

/-- Rearranging a node leaves it an expression, or none. -/
theorem Rearranged.isExpression {a b : Node} (h : Rearranged a b) :
    a.isExpression = b.isExpression := by
  cases h <;> rfl

/-- The children of two nodes are in step. -/
theorem Rearranged.children {a b : Node} (h : Rearranged a b) :
    List.Forall₂ Rearranged a.children b.children := by
  cases h with
  | selector => exact .nil
  | inner names values arguments =>
    rw [children_inner, children_inner]
    exact forall₂_childrenAmong (fun _ _ hab => hab.isExpression)
      (forall₂_sameName names values) arguments _

/-- The walks through two trees yield selectors in step. -/
theorem Rearranged.walk {a b : Node} (h : Rearranged a b) :
    List.Forall₂ SelectorNode.Rearranged a.walk b.walk := by
  induction a using induction_on_children generalizing b with
  | step a ih =>
    have hchildren := h.children
    cases h with
    | selector h =>
      rw [walk_selector, walk_selector]
      exact .cons h .nil
    | inner =>
      rw [walk_inner, walk_inner]
      -- Each child is walked through in step, one after the other.
      generalize Node.children _ = cs at hchildren ih
      generalize Node.children _ = ds at hchildren
      induction hchildren with
      | nil => exact .nil
      | @cons c d cs ds hcd _ ihrest =>
        rw [List.forall_mem_cons] at ih
        exact List.rel_append (ih.1 hcd) (ihrest ih.2)

end Node

/-! ### Settled selectors -/

/-- Two settled selectors have one name and the same matchers, as a set. -/
structure Selector.Alike (s t : Selector) : Prop where
  name : s.name = t.name
  matchers : ∀ m, m ∈ s.matchers ↔ m ∈ t.matchers

/-- The matchers that fix the name of a selector fix it to one value. -/
def Selector.FixesOneName (s : Selector) : Prop :=
  ∀ m ∈ s.matchers, ∀ n ∈ s.matchers, m.fixesName = true → n.fixesName = true → m.value = n.value

/-- The same of a selector as a tree carries it. -/
def SelectorNode.FixesOneName (s : SelectorNode) : Prop :=
  ∀ m ∈ s.allMatchers, ∀ n ∈ s.allMatchers,
    m.label = Matcher.nameLabel → m.operator.resolve = .ok .equal →
    n.label = Matcher.nameLabel → n.operator.resolve = .ok .equal → m.value = n.value

namespace SelectorNode

variable {a b : SelectorNode} {s t : Selector}

/-- The matchers of a selector are those that its node's resolve to. -/
theorem ResolvesTo.mem_matchers_iff (h : a.ResolvesTo s) {r : Matcher} :
    r ∈ s.matchers ↔ ∃ m ∈ a.allMatchers, m.resolve = .ok r := by
  have hall := (resolvesTo_iff.1 h).2
  constructor
  · exact exists_mem_of_forall₂ hall
  · rintro ⟨m, hm, hr⟩
    obtain ⟨other, hother, hresolve⟩ := exists_mem_of_forall₂ hall.flip hm
    -- A matcher is settled in one way only.
    cases hr.symm.trans hresolve
    exact hother

/-- A node that fixes one name at most resolves to such a selector. -/
theorem ResolvesTo.fixesOneName (h : a.ResolvesTo s) (ha : a.FixesOneName) : s.FixesOneName := by
  intro r hr q hq hrFixes hqFixes
  obtain ⟨m, hm, hmr⟩ := h.mem_matchers_iff.1 hr
  obtain ⟨n, hn, hnq⟩ := h.mem_matchers_iff.1 hq
  obtain ⟨hmOp, hmLabel, hmValue⟩ := MatcherNode.resolve_eq_ok_iff.1 hmr
  obtain ⟨hnOp, hnLabel, hnValue⟩ := MatcherNode.resolve_eq_ok_iff.1 hnq
  obtain ⟨hrLabel, hrEqual⟩ := Matcher.fixesName_iff.1 hrFixes
  obtain ⟨hqLabel, hqEqual⟩ := Matcher.fixesName_iff.1 hqFixes
  rw [hmValue, hnValue]
  exact ha m hm n hn (hmLabel ▸ hrLabel) (hrEqual ▸ hmOp) (hnLabel ▸ hqLabel) (hqEqual ▸ hnOp)

/-- Rearranging leaves the comparisons known. -/
theorem Rearranged.supported (h : a.Rearranged b) (ha : a.Supported) : b.Supported :=
  fun m hm => ha m ((h.matchers m).2 hm)

/-- What two rearranged selectors stand for is alike. -/
theorem Rearranged.alike (h : a.Rearranged b) (ha : a.ResolvesTo s) (hb : b.ResolvesTo t) :
    s.Alike t where
  name := (resolvesTo_iff.1 ha).1.trans (h.name.trans (resolvesTo_iff.1 hb).1.symm)
  matchers r := by
    rw [ha.mem_matchers_iff, hb.mem_matchers_iff]
    exact exists_congr fun m => and_congr_left' (h.matchers m)

end SelectorNode

namespace Selector.Alike

variable {s t : Selector}

/-- Selectors that are alike have matchers of the same kinds. -/
theorem exists_matcher_iff (h : s.Alike t) {P : Matcher → Prop} :
    (∃ m ∈ s.matchers, P m) ↔ ∃ m ∈ t.matchers, P m :=
  exists_congr fun m => and_congr_left' (h.matchers m)

/-- Selectors that are alike refer to the same metrics. -/
theorem refersTo_iff (h : s.Alike t) {metric : String} : s.RefersTo metric ↔ t.RefersTo metric := by
  unfold RefersTo
  rw [h.name, h.exists_matcher_iff]

/-- Selectors that are alike match on the same labels. -/
theorem matchesOn_iff (h : s.Alike t) {label : String} : s.MatchesOn label ↔ t.MatchesOn label := by
  unfold MatchesOn
  rw [h.exists_matcher_iff]

/-- Selectors that are alike have blankets on the same labels. -/
theorem blankets_iff (h : s.Alike t) {label : String} : s.Blankets label ↔ t.Blankets label :=
  h.exists_matcher_iff

/-- Selectors that are alike are both named by matchers, or neither is. -/
theorem namedByMatcher_iff (h : s.Alike t) : s.NamedByMatcher ↔ t.NamedByMatcher := by
  unfold NamedByMatcher
  rw [h.name, h.exists_matcher_iff]

/-- Selectors that are alike are both filtered, or neither is. -/
theorem filtered_iff (h : s.Alike t) : s.Filtered ↔ t.Filtered := h.exists_matcher_iff

/-- Messages call two alike selectors by one name, if their matchers do not fix it to
several. -/
theorem displayName (h : s.Alike t) (hone : s.FixesOneName) : s.displayName = t.displayName := by
  unfold Selector.displayName
  rw [h.name]
  split
  · cases hs : s.matchers.find? Matcher.fixesName with
    | none =>
      have ht : t.matchers.find? Matcher.fixesName = none := by
        rw [List.find?_eq_none] at hs ⊢
        exact fun m hm => hs m ((h.matchers m).2 hm)
      rw [ht]
    | some m =>
      have hfixes := List.find?_some hs
      have hmem := (h.matchers m).1 (List.mem_of_find?_eq_some hs)
      obtain ⟨n, hn⟩ : ∃ n, t.matchers.find? Matcher.fixesName = some n := by
        rw [← Option.isSome_iff_exists, List.find?_isSome]
        exact ⟨m, hmem, hfixes⟩
      rw [hn]
      -- The two searches may stop at different matchers, which have one value.
      exact hone m (List.mem_of_find?_eq_some hs) n
        ((h.matchers n).2 (List.mem_of_find?_eq_some hn)) hfixes (List.find?_some hn)
  · rfl

end Selector.Alike

namespace Node.Rearranged

variable {a b : Node}

/-- The comparisons of one tree are known if those of the other are. -/
theorem supported (h : Rearranged a b) (ha : a.Supported) : b.Supported := by
  intro t ht
  obtain ⟨s, hs, hst⟩ := exists_mem_of_forall₂ h.walk (mem_walk.2 ht)
  exact hst.supported (ha s (mem_walk.1 hs))

/-- The settled selectors of two trees are alike, in step. -/
theorem forall₂_alike (h : Rearranged a b) {selectors others : List Selector}
    (ha : List.Forall₂ SelectorNode.ResolvesTo a.walk selectors)
    (hb : List.Forall₂ SelectorNode.ResolvesTo b.walk others) :
    List.Forall₂ Selector.Alike selectors others := by
  have hwalk := h.walk
  -- On the pairing of the two walks, which forgets the trees.
  generalize a.walk = row at hwalk ha
  generalize b.walk = row' at hwalk hb
  induction hwalk generalizing selectors others with
  | nil =>
    cases ha
    cases hb
    exact .nil
  | cons hst _ ih =>
    cases ha with
    | cons hs ha =>
      cases hb with
      | cons ht hb => exact .cons (hst.alike hs ht) (ih ha hb)

end Node.Rearranged

end QueryGuard
