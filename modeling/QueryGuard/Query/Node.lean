import QueryGuard.Query.Selector

/-!
# `QueryGuard.Query.Node`: syntax trees and their selectors

A syntax tree has selectors at some of its leaves. Two definitions find
them: `Node.selectors` keeps a stack of nodes still to visit, and
`Node.walk` recurses into the children. A node of a kind that this
library has never heard of is searched too: where none of the usual
fields holds an expression, all public ones are looked into.
-/

set_option autoImplicit false

namespace QueryGuard

/-- A node of a syntax tree. -/
inductive Node where
  /-- A selector. -/
  | selector (s : SelectorNode)
  /-- Any other node: the name of its kind, the fields that hold one
  node, and the nodes among its arguments. -/
  | inner (kind : String) (fields : List (String × Node)) (args : List Node)
  deriving Inhabited

namespace Node

/-- The name of the kind of node that selectors are. -/
def selectorKind : String := "VectorSelector"

/-- The name of a node's kind. -/
def kind : Node → String
  | .selector _ => selectorKind
  | .inner kind _ _ => kind

/-- Kinds of nodes that are part of a tree but no expressions. -/
def partKinds : List String := ["Matcher", "TokenType"]

/-- Kinds of expressions that have no children beyond the usual
fields. -/
def literalKinds : List String := ["NumberLiteral", "StringLiteral"]

/-- The fields that hold the children of the known kinds, in the order
of the query's text. -/
def childFields : List String := ["param", "expr", "lhs", "rhs", "vector_selector", "vs"]

/-- The node is an expression. -/
def isExpression : Node → Bool
  | .selector _ => true
  | .inner kind _ _ => !partKinds.contains kind

/-- The children in the usual fields and among the arguments. -/
def usualChildren (fields : List (String × Node)) (args : List Node) : List Node :=
  (childFields.filterMap (fields.lookup ·) ++ args).filter isExpression

/-- The name of a field that is not meant to be looked at. -/
def isPrivate (name : String) : Bool := name.startsWith "_"

/-- The children in all public fields, in the order of the fields'
names. -/
def publicChildren (fields : List (String × Node)) : List Node :=
  (((fields.filter fun f => !isPrivate f.1).mergeSort fun f g => f.1 ≤ g.1).map (·.2)).filter
    isExpression

/-- The expressions directly below a node. Those below a selector are
no concern of a walk. -/
def children : Node → List Node
  | .selector _ => []
  | .inner kind fields args =>
    -- The public fields are a last resort: they hold the usual ones too, in another order.
    let usual := usualChildren fields args
    if usual.isEmpty && !literalKinds.contains kind then publicChildren fields else usual

theorem mem_of_lookup {fields : List (String × Node)} {name : String} {n : Node}
    (h : fields.lookup name = some n) : ∃ key, (key, n) ∈ fields := by
  induction fields with
  | nil => simp at h
  | cons f rest ih =>
    obtain ⟨key, m⟩ := f
    rw [List.lookup_cons] at h
    split at h
    · cases h; exact ⟨key, List.mem_cons_self⟩
    · obtain ⟨k, hk⟩ := ih h
      exact ⟨k, List.mem_cons_of_mem _ hk⟩

/-- A child is an argument or the value of a field. -/
theorem mem_of_mem_children {kind : String} {fields : List (String × Node)} {args : List Node}
    {c : Node} (h : c ∈ children (.inner kind fields args)) :
    c ∈ args ∨ ∃ key, (key, c) ∈ fields := by
  simp only [children] at h
  split at h
  · have h := (List.mem_filter.1 h).1
    obtain ⟨f, hf, rfl⟩ := List.mem_map.1 h
    have hf := (List.mem_filter.1 (List.mem_mergeSort.1 hf)).1
    exact Or.inr ⟨f.1, hf⟩
  · have h := (List.mem_filter.1 h).1
    rcases List.mem_append.1 h with h | h
    · obtain ⟨name, _, hl⟩ := List.mem_filterMap.1 h
      exact Or.inr (mem_of_lookup hl)
    · exact Or.inl h

/-- A child is smaller than its parent. -/
theorem sizeOf_lt_of_mem_children {n c : Node} (h : c ∈ n.children) : sizeOf c < sizeOf n := by
  cases n with
  | selector s => simp [children] at h
  | inner kind fields args =>
    rcases mem_of_mem_children h with h | ⟨key, h⟩
    · have := List.sizeOf_lt_of_mem h
      simp only [inner.sizeOf_spec]
      omega
    · have := List.sizeOf_lt_of_mem h
      simp only [Prod.mk.sizeOf_spec] at this
      simp only [inner.sizeOf_spec]
      omega

/-- The selectors of a tree, in the order of the query's text: a
selector is its own only one, and any other node has those of its
children, one child after the other. -/
def walk : Node → List SelectorNode
  | .selector s => [s]
  | .inner kind fields args =>
    (children (.inner kind fields args)).attach.flatMap fun ⟨c, _⟩ => walk c
termination_by n => sizeOf n
decreasing_by exact sizeOf_lt_of_mem_children (by assumption)

/-- The sum of a row of numbers. -/
def total : List Nat → Nat
  | [] => 0
  | n :: rest => n + total rest

theorem total_append (row others : List Nat) :
    total (row ++ others) = total row + total others := by
  induction row with
  | nil => simp [total]
  | cons n rest ih => simp [total, ih, Nat.add_assoc]

/-- How many visits a tree takes. -/
def visits (n : Node) : Nat :=
  1 + total (n.children.attach.map fun ⟨c, _⟩ => visits c)
termination_by sizeOf n
decreasing_by exact sizeOf_lt_of_mem_children (by assumption)

/-- A node is visited once, and then its children are. -/
theorem visits_eq (n : Node) : n.visits = 1 + total (n.children.map visits) := by
  rw [visits]
  show 1 + total (n.children.attach.map fun c => visits c.1) = _
  rw [List.attach_map_val]

/-- The selectors found from a stack of nodes on, the top first. A
selector is yielded; any other node makes way for its children. -/
def visit : List Node → List SelectorNode
  | [] => []
  | n :: stack =>
    match n with
    | .selector s => s :: visit stack
    | .inner kind fields args => visit (children (.inner kind fields args) ++ stack)
termination_by stack => total (stack.map visits)
decreasing_by
  · have := visits_eq (.selector s)
    simp only [List.map_cons, total]
    omega
  · have := visits_eq (.inner kind fields args)
    simp only [List.map_append, total_append, List.map_cons, total]
    omega

/-- The selectors of a tree. -/
def selectors (n : Node) : List SelectorNode := visit [n]

end Node

end QueryGuard
