import QueryGuard.Proofs.Basic
import QueryGuard.Query.Node

/-!
# `QueryGuard.Proofs.Query.Walk`: which selectors a tree yields

`Node.selectors` keeps a stack of nodes still to visit. The theorems tie it
to the shape of the tree:

* `visit_eq_flatMap_walk` / `selectors_eq_walk`: the stack yields the
  selectors of its nodes one node after the other, so the walk over one
  tree is the recursive one. `walk_binary` is its case of two operands.
* `mem_walk`: the walk holds exactly the selectors that the tree reaches.
  `Node.Reaches` follows children alone and keeps no order, which is the
  form that statements about every selector of a query use.
* `occurs_iff_reaches`: a selector that stands anywhere below the root is
  reached, provided no node on the way keeps a selector outside its
  children (`Node.Transparent`). Without that proviso only one direction
  holds, `Reaches.occurs`.
* `Usual.transparent`: trees that keep their expressions in the usual
  fields and among their arguments are transparent.
-/

set_option autoImplicit false

namespace QueryGuard.Node

/-! ### The stack and the recursion -/

/-- The walk of a node that is no selector is the walk of its children, one after the other. -/
theorem walk_inner (kind : String) (fields : List (String × Node)) (args : List Node) :
    walk (.inner kind fields args) = (children (.inner kind fields args)).flatMap walk := by
  rw [walk]
  -- The definition recurses on `attach`, which carries that children are smaller.
  show (children (.inner kind fields args)).attach.flatMap (fun c => walk c.1) = _
  rw [List.flatMap_def, List.flatMap_def, List.attach_map_val]

/-- The walk ends at a selector, and yields it. -/
@[simp] theorem walk_selector (s : SelectorNode) : walk (.selector s) = [s] := by
  rw [walk]

/-- A node with one child adds nothing to the child's walk. -/
theorem walk_of_children_eq_singleton {n c : Node} (h : n.children = [c]) : n.walk = c.walk := by
  cases n with
  | selector s => cases h
  | inner kind fields args => rw [walk_inner, h, List.flatMap_singleton]

/-- A stack yields the selectors of its nodes, those of the top first. -/
theorem visit_eq_flatMap_walk (stack : List Node) : visit stack = stack.flatMap walk := by
  -- Either the top of the stack is a selector, or its children take its place.
  induction stack using visit.induct with
  | case1 => rw [visit, List.flatMap_nil]
  | case2 stack s ih => rw [visit, List.flatMap_cons, walk_selector, ih, List.singleton_append]
  | case3 stack kind fields args ih =>
    rw [visit, ih, List.flatMap_append, List.flatMap_cons, walk_inner]

/-- The walk that keeps a stack is the recursive walk. -/
theorem selectors_eq_walk (n : Node) : n.selectors = n.walk := by
  rw [selectors, visit_eq_flatMap_walk, List.flatMap_singleton]

/-- Induction from the children of a node to the node. -/
theorem induction_on_children {P : Node → Prop}
    (step : ∀ n : Node, (∀ c ∈ n.children, P c) → P n) (n : Node) : P n :=
  step n fun c _ => induction_on_children step c
termination_by sizeOf n
decreasing_by exact sizeOf_lt_of_mem_children (by assumption)

/-! ### Reached selectors -/

/-- A tree reaches a selector: it is that selector, or one of its children
reaches it. -/
inductive Reaches (s : SelectorNode) : Node → Prop where
  | here : Reaches s (.selector s)
  | child {n c : Node} (hc : c ∈ n.children) (h : Reaches s c) : Reaches s n

/-- What the walk of a child yields, the walk of the node yields. -/
theorem mem_walk_of_mem_children {n c : Node} {s : SelectorNode} (hc : c ∈ n.children)
    (hs : s ∈ c.walk) : s ∈ n.walk := by
  cases n with
  | selector t => simp [children] at hc
  | inner kind fields args =>
    rw [walk_inner, List.mem_flatMap]
    exact ⟨c, hc, hs⟩

/-- The walk yields exactly the selectors that are reached. -/
theorem mem_walk {n : Node} {s : SelectorNode} : s ∈ n.walk ↔ n.Reaches s := by
  constructor
  · -- The walk recurses into the children, `Reaches` is built from them.
    induction n using induction_on_children with
    | step n ih =>
      intro hs
      cases n with
      | selector t =>
        rw [walk_selector, List.mem_singleton] at hs
        subst hs
        exact .here
      | inner kind fields args =>
        rw [walk_inner, List.mem_flatMap] at hs
        obtain ⟨c, hc, hs⟩ := hs
        exact .child hc (ih c hc hs)
  · intro h
    induction h with
    | here => simp
    | child hc _ ih => exact mem_walk_of_mem_children hc ih

/-- A node that is no selector reaches what its children reach. -/
theorem reaches_inner {kind : String} {fields : List (String × Node)} {args : List Node}
    {s : SelectorNode} :
    (Node.inner kind fields args).Reaches s ↔
      ∃ c ∈ (Node.inner kind fields args).children, c.Reaches s := by
  simp only [← mem_walk, walk_inner, List.mem_flatMap]

/-! ### Selectors anywhere in a tree -/

/-- The nodes that a node holds, in whatever field or argument. -/
def parts : Node → List Node
  | .selector _ => []
  | .inner _ fields args => fields.map (·.2) ++ args

/-- A selector occurs in a tree: it stands at the root or anywhere below it.
Unlike `Reaches`, this does not ask which fields count as children. -/
inductive Occurs (s : SelectorNode) : Node → Prop where
  | here : Occurs s (.selector s)
  | part {n p : Node} (hp : p ∈ n.parts) (h : Occurs s p) : Occurs s n

/-- A node hides a selector: one that occurs in a part which is no child. -/
def Hides (n : Node) : Prop := ∃ p ∈ n.parts, p ∉ n.children ∧ ∃ s, p.Occurs s

/-- A tree is transparent: neither its root nor any node reached from there
hides a selector. -/
inductive Transparent : Node → Prop where
  | intro {n : Node} (shows : ¬ n.Hides) (below : ∀ c ∈ n.children, Transparent c) :
    Transparent n

/-- A child is one of the parts. -/
theorem mem_parts_of_mem_children {n c : Node} (hc : c ∈ n.children) : c ∈ n.parts := by
  cases n with
  | selector s => simp [children] at hc
  | inner kind fields args =>
    rw [parts, List.mem_append]
    rcases mem_of_mem_children hc with h | ⟨key, h⟩
    · exact .inr h
    · exact .inl (List.mem_map_of_mem h)

/-- What is reached is in the tree. -/
theorem Reaches.occurs {n : Node} {s : SelectorNode} (h : n.Reaches s) : n.Occurs s := by
  induction h with
  | here => exact .here
  | child hc _ ih => exact .part (mem_parts_of_mem_children hc) ih

/-- In a transparent tree every selector that occurs is reached. -/
theorem occurs_iff_reaches {n : Node} (hn : n.Transparent) {s : SelectorNode} :
    n.Occurs s ↔ n.Reaches s := by
  refine ⟨fun h => ?_, Reaches.occurs⟩
  induction h with
  | here => exact .here
  | @part n p hp ho ih =>
    obtain ⟨shows, below⟩ := hn
    -- A part that holds a selector is a child, or the node would hide it.
    have hc : p ∈ n.children :=
      Classical.byContradiction fun hc => shows ⟨p, hp, hc, s, ho⟩
    exact .child hc (ih (below p hc))

/-! ### Trees of the usual shape -/

/-- A tree of the usual shape: every node keeps its expressions in the usual
fields, no field twice, and among its arguments. -/
inductive Usual : Node → Prop where
  | selector (s : SelectorNode) : Usual (.selector s)
  | inner {kind : String} {fields : List (String × Node)} {args : List Node}
    (known : ∀ f ∈ fields, f.1 ∈ childFields) (once : (fields.map (·.1)).Nodup)
    (expressions : ∀ p ∈ fields.map (·.2) ++ args, p.isExpression = true)
    (below : ∀ p ∈ fields.map (·.2) ++ args, Usual p) : Usual (.inner kind fields args)

/-- The parts of a node of the usual shape are its children. -/
theorem mem_children_of_usual {kind : String} {fields : List (String × Node)}
    {args : List Node} (h : Usual (.inner kind fields args)) {p : Node}
    (hp : p ∈ fields.map (·.2) ++ args) : p ∈ children (.inner kind fields args) := by
  cases h with
  | inner known once expressions below =>
    -- No field comes twice, so a look-up by name finds this very part.
    have husual : p ∈ usualChildren fields args := by
      refine List.mem_filter.2 ⟨?_, expressions p hp⟩
      rcases List.mem_append.1 hp with hp | hp
      · obtain ⟨f, hf, rfl⟩ := List.mem_map.1 hp
        exact List.mem_append_left _
          (List.mem_filterMap.2 ⟨f.1, known f hf, lookup_of_mem_of_nodup hf once⟩)
      · exact List.mem_append_right _ hp
    -- There is a usual child, so the public fields are not searched.
    have hempty : (usualChildren fields args).isEmpty = false := by
      rw [List.isEmpty_eq_false_iff]
      exact List.ne_nil_of_mem husual
    simp only [children, hempty, Bool.false_and]
    exact husual

/-- A tree of the usual shape hides nothing. -/
theorem Usual.transparent {n : Node} (h : n.Usual) : n.Transparent := by
  induction n using induction_on_children with
  | step n ih =>
    cases n with
    | selector s => exact .intro (by simp [Hides, parts]) (by simp [children])
    | inner kind fields args =>
      refine .intro ?_ fun c hc => ih c hc ?_
      · rintro ⟨p, hp, hc, -⟩
        exact hc (mem_children_of_usual h hp)
      · cases h with
        | inner known once expressions below => exact below c (mem_parts_of_mem_children hc)

/-! ### Nodes with one or two operands -/

/-- A node with two operands. -/
def binary (kind : String) (l r : Node) : Node := .inner kind [("lhs", l), ("rhs", r)] []

/-- A node around another one, which stands in a usual field or is the only
argument. -/
inductive Wraps (c : Node) : Node → Prop where
  | field {kind name : String} (h : name ∈ childFields) : Wraps c (.inner kind [(name, c)] [])
  | argument {kind : String} : Wraps c (.inner kind [] [c])

/-- The two sides of an operator are its children, the left one first. -/
theorem children_binary (kind : String) {l r : Node} (hl : l.isExpression = true)
    (hr : r.isExpression = true) : (binary kind l r).children = [l, r] := by
  have husual : childFields.filterMap ([("lhs", l), ("rhs", r)].lookup ·) = [l, r] := rfl
  simp [binary, children, usualChildren, husual, hl, hr]

/-- The selectors of two operands, those of the left one first. -/
theorem walk_binary (kind : String) {l r : Node} (hl : l.isExpression = true)
    (hr : r.isExpression = true) : (binary kind l r).walk = l.walk ++ r.walk := by
  have hchildren := children_binary kind hl hr
  rw [binary] at hchildren ⊢
  rw [walk_inner, hchildren, List.flatMap_cons, List.flatMap_singleton]

/-- What wraps an expression has it as its one child. -/
theorem Wraps.children_eq {c n : Node} (h : Wraps c n) (hc : c.isExpression = true) :
    n.children = [c] := by
  cases h with
  | @field kind name h =>
    have husual : childFields.filterMap ([(name, c)].lookup ·) = [c] := by
      simp only [childFields, List.mem_cons, List.not_mem_nil, or_false] at h
      rcases h with rfl | rfl | rfl | rfl | rfl | rfl <;> rfl
    simp [children, usualChildren, husual, hc]
  | argument => simp [children, usualChildren, childFields, hc]

end QueryGuard.Node
