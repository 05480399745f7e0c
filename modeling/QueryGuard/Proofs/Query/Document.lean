import QueryGuard.Proofs.Query.InStep
import QueryGuard.Proofs.Query.Place
import QueryGuard.Query.Tree

/-!
# `QueryGuard.Proofs.Query.Document`: what stands below the selectors of a document

The document of a tree may hold more than the tree: any object can have further fields, the
object of a selector too, and these can hold selectors again. So a document has places that
its tree does not have.

`Json.branches` are the children of a document, by the same rule as those of a node
(`Node.childrenAmong`), and `Json.selectorAt?` is the selector at a place that follows them.
`forall₂_branches`: as long as no selector is passed, a document and its tree have their
children in step. `selectorAt?_eq_some_iff` concludes that the selectors of the tree are the
outermost ones of the document (`Json.Outermost`), at the same places. What stands below a
selector is not in the tree.
-/

set_option autoImplicit false

namespace QueryGuard

namespace Json

open Node (ofJson? fieldNodes argumentNodes rowNodes)

/-! ### The children of a document -/

/-- The kind of the node that a document stands for, none if it stands for no node. -/
def nodeKind? : Json → Option String
  | .object fields =>
    match fields.lookup kindField with
    | some (.string kind) => some kind
    | _ => none
  | _ => none

/-- The document stands for an expression. -/
def isExpression (j : Json) : Bool := j.nodeKind?.any fun kind => !Node.partKinds.contains kind

/-- The fields that hold nodes. -/
def nodeFields (fields : Fields Json) : Fields Json :=
  fields.filter fun f => f.2.nodeKind?.isSome

/-- The nodes in the row of arguments. -/
def argumentRow : Fields Json → List Json
  | [] => []
  | (name, v) :: rest =>
    match v with
    | .array items =>
      if name = argumentsField then items.filter (·.nodeKind?.isSome) else argumentRow rest
    | _ => argumentRow rest

/-- Kinds of nodes whose public fields are not searched: literals, and selectors. -/
def leafKinds : List String := Node.selectorKind :: Node.literalKinds

/-- The expressions directly below the node of a document. Here a selector has those in the
usual places like any other node. -/
def branches : Json → List Json
  | .object fields =>
    Node.childrenAmong isExpression ((Json.object fields).nodeKind?.any leafKinds.contains)
      (nodeFields fields) (argumentRow fields)
  | _ => []

/-- The selector that a document stands for. -/
def selector? : Json → Option SelectorNode
  | .object fields =>
    if (Json.object fields).nodeKind? = some Node.selectorKind then some (.ofFields fields)
    else none
  | _ => none

/-- The selector at a place of a document. -/
def selectorAt? (j : Json) (place : List Nat) : Option SelectorNode :=
  Node.foundAt? branches selector? j place

/-- A selector stands at a place of a document, and none on the way there. -/
structure Outermost (j : Json) (place : List Nat) (s : SelectorNode) : Prop where
  here : j.selectorAt? place = some s
  above : ∀ way, way <+: place → way ≠ place → j.selectorAt? way = none

/-- A way goes on in the branch that its first number counts. -/
theorem selectorAt?_cons (j : Json) (i : Nat) (way : List Nat) :
    j.selectorAt? (i :: way) = j.branches[i]?.bind fun c => c.selectorAt? way := rfl

/-- A document has a selector at the end of the empty way if it is one. -/
theorem outermost_nil_iff {j : Json} {s : SelectorNode} :
    j.Outermost [] s ↔ j.selector? = some s := by
  constructor
  · intro h
    exact h.here
  · intro h
    exact ⟨h, fun way hway hne => absurd (List.prefix_nil.1 hway) hne⟩

/-- Below a selector nothing is outermost. -/
theorem not_outermost_cons {j : Json} {t : SelectorNode} (h : j.selector? = some t) (i : Nat)
    (way : List Nat) (s : SelectorNode) : ¬ j.Outermost (i :: way) s := by
  intro houter
  have hroot : j.selector? = none :=
    houter.above [] List.nil_prefix (List.cons_ne_nil i way).symm
  cases h.symm.trans hroot

/-- Below anything else, what is outermost is so in one of the children. -/
theorem outermost_cons_iff {j : Json} (h : j.selector? = none) {i : Nat} {way : List Nat}
    {s : SelectorNode} :
    j.Outermost (i :: way) s ↔ ∃ c, j.branches[i]? = some c ∧ c.Outermost way s := by
  constructor
  · rintro ⟨hhere, habove⟩
    rw [selectorAt?_cons] at hhere
    obtain ⟨c, hc, hhere⟩ := Option.bind_eq_some_iff.1 hhere
    refine ⟨c, hc, hhere, ?_⟩
    intro front hfront hne
    have hnone := habove (i :: front) ((List.prefix_cons_inj i).2 hfront)
      fun heq => hne (List.cons.inj heq).2
    rw [selectorAt?_cons, hc] at hnone
    exact hnone
  · rintro ⟨c, hc, hhere, habove⟩
    refine ⟨by rw [selectorAt?_cons, hc]; exact hhere, ?_⟩
    intro front hfront hne
    -- On the way down stand the root and what stands on the way below it.
    rcases List.prefix_cons_iff.1 hfront with rfl | ⟨rest, rfl, hrest⟩
    · exact h
    · rw [selectorAt?_cons, hc]
      exact habove rest hrest fun heq => hne (heq ▸ rfl)

/-! ### A document and its tree -/

/-- A document stands for a node. -/
def StandsFor (j : Json) (n : Node) : Prop := ofJson? j = some n

/-- What a document stands for, by its kind. -/
theorem ofJson?_object (fields : Fields Json) :
    ofJson? (.object fields) = (Json.object fields).nodeKind?.map fun kind =>
      if kind = Node.selectorKind then .selector (.ofFields fields)
      else .inner kind (fieldNodes fields) (argumentNodes fields) := by
  rw [ofJson?, nodeKind?]
  cases fields.lookup kindField with
  | none => rfl
  | some v =>
    cases v with
    | string kind =>
      show (if kind = Node.selectorKind then _ else _) =
        some (if kind = Node.selectorKind then _ else _)
      split <;> rfl
    | _ => rfl

/-- A document that stands for a node is an object, with the kind of the node. -/
theorem StandsFor.cases {j : Json} {n : Node} (h : j.StandsFor n) :
    ∃ fields, j = .object fields ∧
      ((j.nodeKind? = some Node.selectorKind ∧ n = .selector (.ofFields fields)) ∨
        ∃ kind, kind ≠ Node.selectorKind ∧ j.nodeKind? = some kind ∧
          n = .inner kind (fieldNodes fields) (argumentNodes fields)) := by
  cases j with
  | object fields =>
    refine ⟨fields, rfl, ?_⟩
    rw [StandsFor, ofJson?_object, Option.map_eq_some_iff] at h
    obtain ⟨kind, hkind, rfl⟩ := h
    by_cases hselector : kind = Node.selectorKind
    · rw [if_pos hselector]
      exact .inl ⟨hselector ▸ hkind, rfl⟩
    · rw [if_neg hselector]
      exact .inr ⟨kind, hselector, hkind, rfl⟩
  | _ => cases h

/-- Exactly the documents with a kind stand for nodes. -/
theorem isSome_nodeKind? (j : Json) : j.nodeKind?.isSome = (ofJson? j).isSome := by
  cases j with
  | object fields => rw [ofJson?_object, Option.isSome_map]
  | _ => rfl

/-- A document is an expression if its node is. -/
theorem StandsFor.isExpression {j : Json} {n : Node} (h : j.StandsFor n) :
    j.isExpression = n.isExpression := by
  unfold Json.isExpression
  obtain ⟨fields, -, ⟨hkind, rfl⟩ | ⟨kind, -, hkind, rfl⟩⟩ := h.cases
  · rw [hkind]
    rfl
  · rw [hkind]
    rfl

/-- A document is a selector if its node is, and then the same one. -/
theorem StandsFor.selector? {j : Json} {n : Node} (h : j.StandsFor n) :
    j.selector? = n.selector? := by
  obtain ⟨fields, rfl, ⟨hkind, rfl⟩ | ⟨kind, hne, hkind, rfl⟩⟩ := h.cases
  · rw [Json.selector?, if_pos hkind]
    rfl
  · rw [Json.selector?, if_neg (by rw [hkind, Option.some.injEq]; exact hne)]
    rfl

/-- The fields that hold nodes are in step with the nodes that they hold. -/
theorem forall₂_fieldNodes (fields : Fields Json) :
    List.Forall₂ (SameName StandsFor) (nodeFields fields) (fieldNodes fields) := by
  induction fields with
  | nil => exact .nil
  | cons f rest ih =>
    obtain ⟨name, v⟩ := f
    rw [nodeFields, List.filter_cons, fieldNodes, isSome_nodeKind?]
    dsimp only
    cases hv : ofJson? v with
    | none => exact ih
    | some n => exact .cons ⟨rfl, hv⟩ ih

/-- The nodes of a row stand for those of its items that are nodes. -/
theorem forall₂_rowNodes (items : List Json) :
    List.Forall₂ StandsFor (items.filter (·.nodeKind?.isSome)) (rowNodes items) := by
  induction items with
  | nil => exact .nil
  | cons item rest ih =>
    rw [List.filter_cons, rowNodes, isSome_nodeKind?]
    cases hitem : ofJson? item with
    | none => exact ih
    | some n => exact .cons hitem ih

/-- The row of arguments is in step with its nodes. -/
theorem forall₂_argumentNodes (fields : Fields Json) :
    List.Forall₂ StandsFor (argumentRow fields) (argumentNodes fields) := by
  induction fields with
  | nil => exact .nil
  | cons f rest ih =>
    obtain ⟨name, v⟩ := f
    cases v with
    | array items =>
      show List.Forall₂ StandsFor
        (if name = argumentsField then _ else _) (if name = argumentsField then _ else _)
      split
      · exact forall₂_rowNodes items
      · exact ih
    | _ => exact ih

/-- A document of an inner node has its children in step with those of the node. -/
theorem forall₂_branches {j : Json} {kind : String} {fields : List (String × Node)}
    {args : List Node} (h : j.StandsFor (.inner kind fields args)) :
    List.Forall₂ StandsFor j.branches (Node.children (.inner kind fields args)) := by
  obtain ⟨own, rfl, ⟨-, hn⟩ | ⟨_, hne, hkind, hn⟩⟩ := h.cases
  · cases hn
  · cases hn
    have hleaf : leafKinds.contains kind = Node.literalKinds.contains kind := by
      simp [leafKinds, hne]
    rw [branches, hkind, Option.any_some, hleaf, Node.children_inner]
    exact Node.forall₂_childrenAmong (fun _ _ hstands => hstands.isExpression)
      (forall₂_fieldNodes own) (forall₂_argumentNodes own) _

/-- The selectors of a tree are the outermost ones of its document. -/
theorem selectorAt?_eq_some_iff {j : Json} {n : Node} (h : j.StandsFor n) {place : List Nat}
    {s : SelectorNode} : n.selectorAt? place = some s ↔ j.Outermost place s := by
  -- On the place. A step down goes to a child and to its document, unless it passes a selector.
  induction place generalizing j n with
  | nil => rw [outermost_nil_iff, h.selector?, Node.selectorAt?_nil]
  | cons i way ih =>
    cases n with
    | selector t =>
      rw [Node.selectorAt?_selector_cons]
      exact iff_of_false nofun (not_outermost_cons h.selector? i way s)
    | inner kind fields args =>
      rw [outermost_cons_iff h.selector?, Node.selectorAt?_cons, Option.bind_eq_some_iff]
      have hrel := rel_getElem? (forall₂_branches h) i
      generalize j.branches[i]? = found at hrel ⊢
      generalize (Node.children _)[i]? = child at hrel ⊢
      cases hrel with
      | none => simp
      | some hstands => simp [ih hstands]

end Json

end QueryGuard
