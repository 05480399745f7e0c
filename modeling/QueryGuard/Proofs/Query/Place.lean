import QueryGuard.Proofs.Query.Walk
import Mathlib.Data.List.Basic

/-!
# `QueryGuard.Proofs.Query.Place`: where the selectors of a tree stand

A place of a tree is the way down to it from the root: the number of the child to go to, at
each node on the way. `Node.selectorAt?` goes there. Places are compared number by number,
which is the order of the query's text, because the children of a node are in that order.

`Node.placed` collects the selectors of a tree with their places, in one pass over the tree.
Three theorems say that it is an index of them, and together leave only one list possible:

* `mem_placed`: what it lists is exactly what stands somewhere, at the right place;
* `pairwise_placed`: the places ascend, so no place is listed twice;
* `map_snd_placed`: without the places it is the walk.
-/

set_option autoImplicit false

namespace QueryGuard.Node

/-! ### Going to a place -/

/-- What is found at a place, below anything that has children. -/
def foundAt? {α β : Type} (children : α → List α) (find? : α → Option β) :
    α → List Nat → Option β
  | a, [] => find? a
  | a, i :: way => (children a)[i]?.bind fun c => foundAt? children find? c way

/-- The selector that a node is. -/
def selector? : Node → Option SelectorNode
  | .selector s => some s
  | .inner .. => none

/-- The selector at a place. -/
def selectorAt? (n : Node) (place : List Nat) : Option SelectorNode :=
  foundAt? children selector? n place

/-- At the end of a way stands the selector, if the node is one. -/
theorem selectorAt?_nil (n : Node) : n.selectorAt? [] = n.selector? := rfl

/-- A way goes on in the child that its first number counts. -/
theorem selectorAt?_cons (n : Node) (i : Nat) (way : List Nat) :
    n.selectorAt? (i :: way) = n.children[i]?.bind fun c => c.selectorAt? way := rfl

/-- Nothing stands below a selector. -/
theorem selectorAt?_selector_cons (s : SelectorNode) (i : Nat) (way : List Nat) :
    (Node.selector s).selectorAt? (i :: way) = none := rfl

/-! ### The selectors with their places -/

/-- The selectors of a tree, each with its place. -/
def placed : Node → List (List Nat × SelectorNode)
  | .selector s => [([], s)]
  | .inner kind fields args =>
    ((children (.inner kind fields args)).attach.map fun ⟨c, _⟩ => placed c).zipIdx.flatMap
      fun (below, i) => below.map fun (way, s) => (i :: way, s)
termination_by n => sizeOf n
decreasing_by exact sizeOf_lt_of_mem_children (by assumption)

/-- A selector stands at the end of the empty way. -/
theorem placed_selector (s : SelectorNode) : placed (.selector s) = [([], s)] := by
  rw [placed]

/-- Below an inner node the number of the child comes first. -/
theorem placed_inner (kind : String) (fields : List (String × Node)) (args : List Node) :
    placed (.inner kind fields args) =
      (children (.inner kind fields args)).zipIdx.flatMap fun c =>
        c.1.placed.map fun x => (c.2 :: x.1, x.2) := by
  rw [placed]
  -- The definition recurses on `attach`, which carries that children are smaller.
  show (((children (.inner kind fields args)).attach.map fun c => placed c.1).zipIdx).flatMap
    (fun c => c.1.map fun x => (c.2 :: x.1, x.2)) = _
  rw [List.attach_map_val, List.zipIdx_map, List.flatMap_map]
  rfl

/-- A numbered child is a child. -/
theorem fst_mem_of_mem_zipIdx {cs : List Node} {c : Node × Nat} (h : c ∈ cs.zipIdx) :
    c.1 ∈ cs :=
  List.mem_of_getElem? (List.mem_zipIdx_iff_getElem?.1 h)

/-- The index lists exactly the selectors that stand somewhere. -/
theorem mem_placed {n : Node} {place : List Nat} {s : SelectorNode} :
    (place, s) ∈ n.placed ↔ n.selectorAt? place = some s := by
  -- On the tree. A place is the root or goes on below one of the children.
  induction n using induction_on_children generalizing place with
  | step n ih =>
    cases n with
    | selector t =>
      rw [placed_selector, List.mem_singleton]
      cases place with
      | nil =>
        show ([], s) = ([], t) ↔ some t = some s
        simp [eq_comm]
      | cons i way => simp [selectorAt?_selector_cons]
    | inner kind fields args =>
      rw [placed_inner, List.mem_flatMap]
      constructor
      · rintro ⟨⟨c, i⟩, hc, hmem⟩
        obtain ⟨⟨way, t⟩, hbelow, heq⟩ := List.mem_map.1 hmem
        obtain ⟨rfl, rfl⟩ := Prod.mk.inj heq
        have hat : c.selectorAt? way = some t := (ih c (fst_mem_of_mem_zipIdx hc)).1 hbelow
        rw [selectorAt?_cons, List.mem_zipIdx_iff_getElem?.1 hc]
        exact hat
      · intro h
        cases place with
        | nil => cases h
        | cons i way =>
          rw [selectorAt?_cons, Option.bind_eq_some_iff] at h
          obtain ⟨c, hc, hat⟩ := h
          have hbelow : (way, s) ∈ c.placed := (ih c (List.mem_of_getElem? hc)).2 hat
          exact ⟨(c, i), List.mem_zipIdx_iff_getElem?.2 hc, List.mem_map_of_mem hbelow⟩

/-- The places of the index ascend. -/
theorem pairwise_placed (n : Node) : n.placed.Pairwise fun x y => x.1 < y.1 := by
  induction n using induction_on_children with
  | step n ih =>
    cases n with
    | selector s =>
      rw [placed_selector]
      exact List.pairwise_singleton _ _
    | inner kind fields args =>
      rw [placed_inner, List.pairwise_flatMap]
      constructor
      · -- Below one child the places differ after its number.
        intro c hc
        rw [List.pairwise_map]
        refine (ih c.1 (fst_mem_of_mem_zipIdx hc)).imp ?_
        intro x y hxy
        exact List.cons_lt_cons_iff.2 (.inr ⟨rfl, hxy⟩)
      · -- Below two children their numbers decide.
        have hnumbers : ((children (.inner kind fields args)).zipIdx).Pairwise
            fun c d => c.2 < d.2 := by
          rw [← List.pairwise_map (f := Prod.snd), List.zipIdx_map_snd]
          exact List.pairwise_lt_range' 1
        refine hnumbers.imp ?_
        intro c d hcd x hx y hy
        obtain ⟨x, -, rfl⟩ := List.mem_map.1 hx
        obtain ⟨y, -, rfl⟩ := List.mem_map.1 hy
        exact List.cons_lt_cons_iff.2 (.inl hcd)

/-- The index without the places is the walk. -/
theorem map_snd_placed (n : Node) : n.placed.map (·.2) = n.walk := by
  induction n using induction_on_children with
  | step n ih =>
    cases n with
    | selector s => rw [placed_selector, walk_selector, List.map_singleton]
    | inner kind fields args =>
      rw [placed_inner, walk_inner, List.map_flatMap]
      -- The places add the child's index in front, which the selectors do not show.
      calc (children (.inner kind fields args)).zipIdx.flatMap
            (fun c => (c.1.placed.map fun x => (c.2 :: x.1, x.2)).map (·.2))
          = (children (.inner kind fields args)).zipIdx.flatMap fun c => c.1.walk := by
            refine List.flatMap_congr ?_
            intro c hc
            rw [List.map_map, ← ih c.1 (fst_mem_of_mem_zipIdx hc)]
            rfl
        _ = ((children (.inner kind fields args)).zipIdx.map Prod.fst).flatMap walk := by
            rw [List.flatMap_map]
        _ = (children (.inner kind fields args)).flatMap walk := by
            rw [List.zipIdx_map_fst]

end QueryGuard.Node
