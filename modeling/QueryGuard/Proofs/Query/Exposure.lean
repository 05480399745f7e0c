import QueryGuard.Proofs.Query.Walk

/-!
# `QueryGuard.Proofs.Query.Exposure`: selectors below nodes of any kind

The walk looks for the children of a node in the usual fields and among the
arguments. Only a node that has no expression there, and is no literal, is searched
in all of its public fields (`Node.Bare`). So a node of a kind that the walk has
never heard of is searched as well, but not in its other fields once a usual field
holds something.

* `Node.Leads`: a selector stands at the end of a chain of public fields and
  arguments. That alone does not make the walk yield it:
  `not_mem_selectors_infoExpr` is a node with one selector in a usual field and
  another one, which is missed, beside it.
* `Node.Exposes`: the chain takes a step through a field that is not a usual one
  only from nodes that are bare. `mem_selectors_of_exposes` says that a selector at
  the end of such a chain is yielded, whatever the kinds of the nodes and whatever
  else they hold, and that nothing else is.
-/

set_option autoImplicit false

namespace QueryGuard.Node

/-! ### What a node holds -/

/-- The node that a field holds. -/
def held? : Node → String → Option Node
  | .selector _, _ => none
  | .inner _ fields _, name => fields.lookup name

/-- The nodes among the arguments. -/
def arguments : Node → List Node
  | .selector _ => []
  | .inner _ _ args => args

/-- A node has an expression in a usual field or among its arguments. -/
def HasUsual (n c : Node) : Prop :=
  c.isExpression = true ∧ (c ∈ n.arguments ∨ ∃ name ∈ childFields, n.held? name = some c)

/-- A node has an expression in a public field. -/
def HasPublic (n c : Node) : Prop :=
  c.isExpression = true ∧ ∃ name, isPrivate name = false ∧ n.held? name = some c

/-- A node that is no literal has no expression in the usual places. -/
structure Bare (n : Node) : Prop where
  empty : ∀ c, ¬ n.HasUsual c
  kind : n.kind ∉ literalKinds

/-- A tree leads to a selector by public fields and arguments, from one expression to
the next. -/
inductive Leads (s : SelectorNode) : Node → Prop where
  | here : Leads s (.selector s)
  | argument {n c : Node} (mem : c ∈ n.arguments) (expression : c.isExpression = true)
    (below : Leads s c) : Leads s n
  | field {n c : Node} (shown : n.HasPublic c) (below : Leads s c) : Leads s n

/-- A tree exposes a selector: it leads to it, and each step through a field that is
not a usual one starts at a bare node. -/
inductive Exposes (s : SelectorNode) : Node → Prop where
  | here : Exposes s (.selector s)
  | usual {n c : Node} (usual : n.HasUsual c) (below : Exposes s c) : Exposes s n
  | other {n c : Node} (shown : n.HasPublic c) (bare : n.Bare) (below : Exposes s c) :
    Exposes s n

/-- No field comes twice, in any node that the children reach. -/
inductive Distinct : Node → Prop where
  | selector (s : SelectorNode) : Distinct (.selector s)
  | inner {kind : String} {fields : List (String × Node)} {args : List Node}
    (once : (fields.map (·.1)).Nodup)
    (below : ∀ c ∈ children (.inner kind fields args), Distinct c) :
    Distinct (.inner kind fields args)

/-! ### The children of a node -/

section
variable {kind : String} {fields : List (String × Node)} {args : List Node} {c : Node}

/-- The usual children are the expressions in usual fields and among the arguments. -/
theorem mem_usualChildren_iff :
    c ∈ usualChildren fields args ↔ (Node.inner kind fields args).HasUsual c := by
  show c ∈ List.filter _ _ ↔ _ ∧ (c ∈ args ∨ ∃ name ∈ childFields, fields.lookup name = some c)
  rw [List.mem_filter, List.mem_append, List.mem_filterMap, and_comm,
    or_comm (a := c ∈ args)]

/-- An expression in a public field is one of the public children. -/
theorem mem_publicChildren_of_hasPublic (h : (Node.inner kind fields args).HasPublic c) :
    c ∈ publicChildren fields := by
  obtain ⟨hexpr, name, hpublic, hheld⟩ := h
  have hlookup : fields.lookup name = some c := hheld
  obtain ⟨front, back, rfl, -⟩ := List.lookup_eq_some_iff.1 hlookup
  have hmem : (name, c) ∈ front ++ (name, c) :: back :=
    List.mem_append_right front List.mem_cons_self
  refine List.mem_filter.2 ⟨List.mem_map.2 ⟨(name, c), ?_, rfl⟩, hexpr⟩
  exact List.mem_mergeSort.2 (List.mem_filter.2 ⟨hmem, by simp [hpublic]⟩)

/-- Where no field comes twice, each public one is what a look-up by its name finds. -/
theorem hasPublic_of_mem_publicChildren (once : (fields.map (·.1)).Nodup)
    (h : c ∈ publicChildren fields) : (Node.inner kind fields args).HasPublic c := by
  obtain ⟨hmem, hexpr⟩ := List.mem_filter.1 h
  obtain ⟨f, hf, rfl⟩ := List.mem_map.1 hmem
  obtain ⟨hf, hpublic⟩ := List.mem_filter.1 (List.mem_mergeSort.1 hf)
  exact ⟨hexpr, f.1, by simpa using hpublic, lookup_of_mem_of_nodup hf once⟩

/-- The test for a bare node finds just these. -/
theorem bare_iff : (Node.inner kind fields args).Bare ↔
    ((usualChildren fields args).isEmpty && !literalKinds.contains kind) = true := by
  have hempty : (∀ c, ¬ (Node.inner kind fields args).HasUsual c) ↔
      usualChildren fields args = [] := by
    simp only [← mem_usualChildren_iff, List.eq_nil_iff_forall_not_mem]
  have hkind : (Node.inner kind fields args).kind ∉ literalKinds ↔
      literalKinds.contains kind = false := by
    show kind ∉ literalKinds ↔ _
    simp
  rw [Bool.and_eq_true, List.isEmpty_iff, Bool.not_eq_true', ← hempty, ← hkind]
  exact ⟨fun h => ⟨h.empty, h.kind⟩, fun h => ⟨h.1, h.2⟩⟩

end

/-- An expression in a usual place is a child, on nodes of every kind. -/
theorem mem_children_of_hasUsual {n c : Node} (h : n.HasUsual c) : c ∈ n.children := by
  cases n with
  | selector s =>
    -- A selector holds nothing.
    obtain ⟨-, hmem | ⟨name, -, hheld⟩⟩ := h
    · cases hmem
    · cases hheld
  | inner kind fields args =>
    have hmem : c ∈ usualChildren fields args := mem_usualChildren_iff.2 h
    have hbare : ¬ ((usualChildren fields args).isEmpty && !literalKinds.contains kind) = true :=
      fun hb => (bare_iff.2 hb).empty c h
    show c ∈ if _ then _ else _
    rw [if_neg hbare]
    exact hmem

/-- A bare node is searched in all of its public fields. -/
theorem mem_children_of_bare {n c : Node} (hn : n.Bare) (h : n.HasPublic c) :
    c ∈ n.children := by
  cases n with
  | selector s =>
    obtain ⟨-, name, -, hheld⟩ := h
    cases hheld
  | inner kind fields args =>
    show c ∈ if _ then _ else _
    rw [if_pos (bare_iff.1 hn)]
    exact mem_publicChildren_of_hasPublic h

/-- The children of a node are the expressions in the usual places, or those in the
public fields of a bare node. -/
theorem hasUsual_or_bare_of_mem_children {n c : Node} (hn : n.Distinct)
    (h : c ∈ n.children) : n.HasUsual c ∨ (n.Bare ∧ n.HasPublic c) := by
  cases hn with
  | selector s => cases h
  | inner once below =>
    change c ∈ if _ then _ else _ at h
    split at h
    · next hbare => exact .inr ⟨bare_iff.2 hbare, hasPublic_of_mem_publicChildren once h⟩
    · exact .inl (mem_usualChildren_iff.1 h)

/-! ### The selectors of a tree -/

/-- What a tree exposes, its walk yields. -/
theorem Exposes.reaches {n : Node} {s : SelectorNode} (h : Exposes s n) : n.Reaches s := by
  -- Each step of the chain goes to a child.
  induction h with
  | here => exact .here
  | usual usual _ ih => exact .child (mem_children_of_hasUsual usual) ih
  | other shown bare _ ih => exact .child (mem_children_of_bare bare shown) ih

/-- In a tree without repeated fields the walk yields nothing else. -/
theorem Reaches.exposes {n : Node} {s : SelectorNode} (hn : n.Distinct) (h : n.Reaches s) :
    Exposes s n := by
  induction h with
  | here => exact .here
  | @child m c hc _ ih =>
    have hbelow : Exposes s c := by
      refine ih ?_
      cases hn with
      | selector t => cases hc
      | inner once below => exact below c hc
    rcases hasUsual_or_bare_of_mem_children hn hc with usual | ⟨bare, shown⟩
    · exact .usual usual hbelow
    · exact .other shown bare hbelow

/-- A selector that a tree exposes is yielded, whatever the kinds of its nodes. In
a tree in which no field comes twice no other selector is. -/
theorem mem_selectors_of_exposes (n : Node) :
    (∀ s, Exposes s n → s ∈ n.selectors) ∧
      (n.Distinct → ∀ s, s ∈ n.selectors → Exposes s n) := by
  have hmem : ∀ s, s ∈ n.selectors ↔ n.Reaches s := by
    intro s
    rw [selectors_eq_walk, mem_walk]
  constructor
  · intro s h
    exact (hmem s).2 h.reaches
  · intro hn s h
    exact ((hmem s).1 h).exposes hn

/-! ### Samples -/

/-- The selector of all series of a metric. -/
def allOf (metric : String) : SelectorNode := ⟨metric, [], []⟩

/-- A node of an unknown kind whose only expression is a call in an unknown field. -/
def limitExpr : Node :=
  .inner "LimitExpr" [("source", .inner "Call" [] [.selector (allOf "up")])] []

/-- A node of an unknown kind with a selector in a usual field and another one in an
unknown field. -/
def infoExpr : Node :=
  .inner "InfoExpr" [("expr", .selector (allOf "up")), ("data", .selector (allOf "target_info"))]
    []

/-- The call is found, and so is the selector among its arguments. -/
theorem mem_selectors_limitExpr :
    Exposes (allOf "up") limitExpr ∧ allOf "up" ∈ limitExpr.selectors := by
  have hbare : limitExpr.Bare := bare_iff.2 (by decide)
  have hcall : limitExpr.HasPublic (.inner "Call" [] [.selector (allOf "up")]) :=
    ⟨rfl, "source", by decide +kernel, rfl⟩
  have hargument : (Node.inner "Call" [] [.selector (allOf "up")]).HasUsual
      (.selector (allOf "up")) := ⟨rfl, .inl List.mem_cons_self⟩
  have hexposes : Exposes (allOf "up") limitExpr := .other hcall hbare (.usual hargument .here)
  exact ⟨hexposes, (mem_selectors_of_exposes limitExpr).1 _ hexposes⟩

/-- A public field leads to a selector that is not yielded: a usual field of the same
node holds another one. -/
theorem not_mem_selectors_infoExpr :
    Leads (allOf "target_info") infoExpr ∧ infoExpr.selectors = [allOf "up"] ∧
      allOf "target_info" ∉ infoExpr.selectors := by
  have hpublic : infoExpr.HasPublic (.selector (allOf "target_info")) :=
    ⟨rfl, "data", by decide +kernel, rfl⟩
  have hselectors : infoExpr.selectors = [allOf "up"] := by
    rw [selectors_eq_walk, walk_of_children_eq_singleton rfl, walk_selector]
  refine ⟨.field hpublic .here, hselectors, ?_⟩
  rw [hselectors]
  decide

end QueryGuard.Node
