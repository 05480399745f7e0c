import QueryGuard.Proofs.Basic
import QueryGuard.Query.Node
import Mathlib.Data.List.Forall2

/-!
# `QueryGuard.Proofs.Query.InStep`: children in step

Two rows are in step when they have one length and each member of the one is related to the
member of the other at the same index (`List.Forall₂`). Rows of named values in step are
looked up alike (`rel_lookup`) and stay in step when they are sorted by name
(`forall₂_mergeSort`).

`Node.childrenAmong` states the rule for children once, for anything that can be told to be
an expression: those in the usual places, or else those in the public fields.
`Node.forall₂_childrenAmong` is the use of it: two nodes whose fields and arguments are in
step have their children in step, if the relation respects which things are expressions.
-/

set_option autoImplicit false

namespace QueryGuard

/-! ### Rows in step -/

section
variable {α β : Type} {R : α → β → Prop}

/-- Two named values have one name, and are related. -/
def SameName (R : α → β → Prop) (f : String × α) (g : String × β) : Prop := f.1 = g.1 ∧ R f.2 g.2

/-- Two rows with the same names, whose values are related in turn. -/
theorem forall₂_sameName {row : List (String × α)} {others : List (String × β)}
    (hnames : row.map (·.1) = others.map (·.1))
    (hvalues : List.Forall₂ R (row.map (·.2)) (others.map (·.2))) :
    List.Forall₂ (SameName R) row others := by
  induction row generalizing others with
  | nil =>
    rw [List.map_eq_nil_iff.1 hnames.symm]
    exact .nil
  | cons f rest ih =>
    cases others with
    | nil => cases hnames
    | cons g others =>
      obtain ⟨hname, hnames⟩ := List.cons.inj hnames
      cases hvalues with
      | cons hvalue hvalues => exact .cons ⟨hname, hvalue⟩ (ih hnames hvalues)

/-- Two rows of named values in step are looked up alike. -/
theorem rel_lookup {row : List (String × α)} {others : List (String × β)}
    (h : List.Forall₂ (SameName R) row others) (name : String) :
    Option.Rel R (row.lookup name) (others.lookup name) := by
  induction h with
  | nil => exact .none
  | @cons f g _ _ hfg _ ih =>
    obtain ⟨key, a⟩ := f
    obtain ⟨_, b⟩ := g
    obtain ⟨rfl, hab⟩ := hfg
    rw [lookup_cons_eq_ite, lookup_cons_eq_ite]
    split
    · exact .some hab
    · exact ih

/-- Two rows in step stay in step when they are sorted, if the orders do not tell their
members apart. -/
theorem forall₂_mergeSort (le : α → α → Bool) (le' : β → β → Bool)
    (hle : ∀ {a b c d}, R a b → R c d → le a c = le' b d) {row : List α} {others : List β}
    (h : List.Forall₂ R row others) :
    List.Forall₂ R (row.mergeSort le) (others.mergeSort le') := by
  -- Both are sorted as one row of pairs is.
  have hpairs : ∀ p ∈ row.zip others, R p.1 p.2 := fun _ hp => (List.forall₂_iff_zip.1 h).2 hp
  have hfst : (row.zip others).map Prod.fst = row := List.map_fst_zip (Nat.le_of_eq h.length_eq)
  have hsnd : (row.zip others).map Prod.snd = others :=
    List.map_snd_zip (Nat.le_of_eq h.length_eq.symm)
  have hrow : ((row.zip others).mergeSort fun p q => le p.1 q.1).map Prod.fst =
      row.mergeSort le := by
    rw [List.map_mergeSort (s := le) fun _ _ _ _ => rfl, hfst]
  have hothers : ((row.zip others).mergeSort fun p q => le p.1 q.1).map Prod.snd =
      others.mergeSort le' := by
    rw [List.map_mergeSort (s := le') fun p hp q hq => hle (hpairs p hp) (hpairs q hq), hsnd]
  rw [← hrow, ← hothers, List.forall₂_map_left_iff, List.forall₂_map_right_iff,
    List.forall₂_same]
  exact fun p hp => hpairs p (List.mem_mergeSort.1 hp)

/-- Two rows in step have related members at the same index. -/
theorem rel_getElem? {row : List α} {others : List β} (h : List.Forall₂ R row others) (i : Nat) :
    Option.Rel R row[i]? others[i]? := by
  induction h generalizing i with
  | nil => exact .none
  | cons hab _ ih =>
    cases i with
    | zero => exact .some hab
    | succ i =>
      rw [List.getElem?_cons_succ, List.getElem?_cons_succ]
      exact ih i

end

/-! ### Children in step -/

namespace Node

section
variable {α : Type}

/-- The expressions in the usual fields and among the arguments. -/
def usualAmong (isExpression : α → Bool) (fields : List (String × α)) (args : List α) : List α :=
  (childFields.filterMap (fields.lookup ·) ++ args).filter isExpression

/-- The expressions in all public fields, in the order of the fields' names. -/
def publicAmong (isExpression : α → Bool) (fields : List (String × α)) : List α :=
  (((fields.filter fun f => !isPrivate f.1).mergeSort fun f g => f.1 ≤ g.1).map (·.2)).filter
    isExpression

/-- The expressions in the usual places, or else, of anything but a leaf, those in the
public fields. -/
def childrenAmong (isExpression : α → Bool) (leaf : Bool) (fields : List (String × α))
    (args : List α) : List α :=
  if (usualAmong isExpression fields args).isEmpty && !leaf then publicAmong isExpression fields
  else usualAmong isExpression fields args

end

/-- The children of a node are those of its parts, whatever kind the parts are of. -/
theorem children_inner (kind : String) (fields : List (String × Node)) (args : List Node) :
    children (.inner kind fields args) =
      childrenAmong isExpression (literalKinds.contains kind) fields args := rfl

section
variable {α β : Type} {R : α → β → Prop} {isA : α → Bool} {isB : β → Bool}
  {fields : List (String × α)} {others : List (String × β)} {args : List α} {rest : List β}

/-- The expressions among things in step are in step. -/
theorem forall₂_filter_isExpression (hR : ∀ a b, R a b → isA a = isB b)
    {row : List α} {row' : List β} (h : List.Forall₂ R row row') :
    List.Forall₂ R (row.filter isA) (row'.filter isB) :=
  List.rel_filter (fun _ _ hab => iff_of_eq (congrArg (· = true) (hR _ _ hab))) h

/-- What stands in the usual places of related nodes is related. -/
theorem forall₂_usualAmong (hR : ∀ a b, R a b → isA a = isB b)
    (hfields : List.Forall₂ (SameName R) fields others) (hargs : List.Forall₂ R args rest) :
    List.Forall₂ R (usualAmong isA fields args) (usualAmong isB others rest) := by
  have hheld : List.Forall₂ R (childFields.filterMap (fields.lookup ·))
      (childFields.filterMap (others.lookup ·)) :=
    List.rel_filterMap (R := Eq) (fun name _ heq => heq ▸ rel_lookup hfields name)
      (List.forall₂_refl _)
  exact forall₂_filter_isExpression hR (List.rel_append hheld hargs)

/-- What stands in the public fields of related nodes is related. -/
theorem forall₂_publicAmong (hR : ∀ a b, R a b → isA a = isB b)
    (hfields : List.Forall₂ (SameName R) fields others) :
    List.Forall₂ R (publicAmong isA fields) (publicAmong isB others) := by
  have hshown : List.Forall₂ (SameName R) (fields.filter fun f => !isPrivate f.1)
      (others.filter fun f => !isPrivate f.1) := by
    refine List.rel_filter ?_ hfields
    rintro ⟨name, a⟩ ⟨_, b⟩ ⟨rfl, -⟩
    exact Iff.rfl
  -- The order is that of the names, which are the same.
  have hsorted := forall₂_mergeSort (fun f g => decide (f.1 ≤ g.1))
    (fun f g => decide (f.1 ≤ g.1)) (fun hab hcd => by rw [hab.1, hcd.1]) hshown
  exact forall₂_filter_isExpression hR (List.rel_map (fun _ _ hfg => hfg.2) hsorted)

/-- What two nodes in step have for children is in step. -/
theorem forall₂_childrenAmong (hR : ∀ a b, R a b → isA a = isB b)
    (hfields : List.Forall₂ (SameName R) fields others) (hargs : List.Forall₂ R args rest)
    (leaf : Bool) :
    List.Forall₂ R (childrenAmong isA leaf fields args) (childrenAmong isB leaf others rest) := by
  have husual := forall₂_usualAmong hR hfields hargs
  -- Both nodes fall back on the public fields, or neither does.
  have hempty : (usualAmong isA fields args).isEmpty = (usualAmong isB others rest).isEmpty := by
    rw [Bool.eq_iff_iff, List.isEmpty_iff_length_eq_zero, List.isEmpty_iff_length_eq_zero,
      husual.length_eq]
  unfold childrenAmong
  rw [hempty]
  split
  · exact forall₂_publicAmong hR hfields
  · exact husual

end

end Node

end QueryGuard
