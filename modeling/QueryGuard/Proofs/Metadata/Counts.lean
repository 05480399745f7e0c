import Mathlib.Data.List.Nodup
import QueryGuard.Metadata.Counts
import QueryGuard.Proofs.Basic

/-!
# `QueryGuard.Proofs.Metadata.Counts`: a table is what its look-ups find

The entries of a table stand in the order of their names, each name once. So a table is
known by its entries in any order (`Counts.eq_of_perm`), and by what a look-up finds for
each name (`Counts.ext_get?`).

A table that is built from a row of counts keeps the last count of each name. Those
before it leave no trace: `Counts.ofList_eq_of_perm` says that the table is the one of the
row without them, in whatever order (`Counts.latest`).
-/

set_option autoImplicit false

namespace QueryGuard.Counts

variable {a b counts : Counts} {name other : Wording} {n : Int} {row : List (Wording × Int)}

/-- Every name is counted once, as the entries are strictly sorted. -/
theorem nodup_names (counts : Counts) : (counts.entries.map Prod.fst).Nodup := by
  refine List.pairwise_map.2 (counts.ascending.imp fun hlt heq => ?_)
  rw [heq] at hlt
  exact Wording.lt_irrefl _ hlt

/-- Looking a name up finds exactly the entries. -/
theorem get?_eq_some_iff : counts.get? name = some n ↔ (name, n) ∈ counts.entries := by
  constructor
  · intro h
    obtain ⟨before, after, heq, -⟩ := List.lookup_eq_some_iff.1 h
    rw [heq]
    exact List.mem_append_right before List.mem_cons_self
  · intro h
    exact lookup_of_mem_of_nodup h counts.nodup_names

/-- Two tables of the same entries are equal, for there is one order of the names. -/
theorem eq_of_perm (h : a.entries.Perm b.entries) : a = b := by
  have hentries : a.entries = b.entries := by
    refine List.Perm.eq_of_pairwise ?_ a.ascending b.ascending h
    exact fun _ _ _ _ hlt hgt => absurd (Wording.lt_trans hlt hgt) (Wording.lt_irrefl _)
  cases a
  cases b
  cases hentries
  rfl

/-- Two tables that give every name the same count are equal. -/
theorem ext_get? (h : ∀ name, a.get? name = b.get? name) : a = b := by
  have hmem : ∀ e, e ∈ a.entries ↔ e ∈ b.entries := by
    rintro ⟨name, n⟩
    rw [← get?_eq_some_iff, ← get?_eq_some_iff, h name]
  have hnodup (counts : Counts) : counts.entries.Nodup := counts.nodup_names.of_map
  exact eq_of_perm ((List.perm_ext_iff_of_nodup (hnodup a) (hnodup b)).2 hmem)

/-- After an insertion the new name has the new count and every other name its old one. -/
theorem lookup_insertEntry (entries : List (Wording × Int)) :
    (insertEntry name n entries).lookup other =
      if other = name then some n else entries.lookup other := by
  induction entries with
  | nil => exact lookup_cons_eq_ite name other n []
  | cons e rest ih =>
    obtain ⟨first, c⟩ := e
    unfold insertEntry
    split
    · exact lookup_cons_eq_ite name other n _
    · split
      · next heq =>
        -- The old count of the name is not found any more.
        subst heq
        rw [lookup_cons_eq_ite, lookup_cons_eq_ite]
        split <;> rfl
      · next hne =>
        rw [lookup_cons_eq_ite, lookup_cons_eq_ite, ih]
        by_cases h : other = first
        · have hother : other ≠ name := fun heq => hne (heq.symm.trans h)
          rw [if_pos h, if_neg hother, if_pos h]
        · rw [if_neg h, if_neg h]

/-- A count that is set is the one that is found, and no other name is touched. -/
theorem get?_insert :
    (counts.insert name n).get? other = if other = name then some n else counts.get? other :=
  lookup_insertEntry counts.entries

/-! ### Rows of counts -/

/-- A row without the counts that a later one of the same name replaces. -/
def latest : List (Wording × Int) → List (Wording × Int)
  | [] => []
  | e :: rest => if e.1 ∈ rest.map Prod.fst then latest rest else e :: latest rest

/-- A row of insertions is read from its end: the last entry of a name wins over those before it. -/
theorem get?_foldl_insert (row : List (Wording × Int)) (before : Counts) :
    (row.foldl (fun counts e => counts.insert e.1 e.2) before).get? name =
      (row.reverse.lookup name).or (before.get? name) := by
  induction row generalizing before with
  | nil => rfl
  | cons e rest ih =>
    rw [List.foldl_cons, ih, get?_insert, List.reverse_cons, List.lookup_append, Option.or_assoc,
      lookup_cons_eq_ite]
    congr 1
    split <;> rfl

/-- The table of a row has for each name the last count in the row. -/
theorem get?_ofList : (ofList row).get? name = row.reverse.lookup name := by
  unfold ofList
  rw [get?_foldl_insert]
  exact Option.or_none

/-- A name is missing from the reversed row exactly when the row does not have it. -/
theorem lookup_reverse_eq_none_iff : row.reverse.lookup name = none ↔ name ∉ row.map Prod.fst := by
  simp only [List.lookup_eq_none_iff, List.mem_reverse, bne_iff_ne, List.mem_map, not_exists,
    not_and]
  exact ⟨fun h e he heq => h e he heq.symm, fun h e he heq => h e he heq.symm⟩

/-- What is left of a row are the last counts of its names. -/
theorem mem_latest_iff : (name, n) ∈ latest row ↔ row.reverse.lookup name = some n := by
  induction row with
  | nil => exact iff_of_false List.not_mem_nil nofun
  | cons e rest ih =>
    obtain ⟨first, c⟩ := e
    have hsingle : List.lookup name [(first, c)] = some n ↔ (name, n) = (first, c) := by
      rw [lookup_cons_eq_ite, Prod.mk.injEq]
      by_cases h : name = first <;> simp [h, eq_comm]
    rw [List.reverse_cons, List.lookup_append, Option.or_eq_some_iff, ← ih, hsingle,
      lookup_reverse_eq_none_iff, latest]
    split
    · next hmem =>
      -- The first count is replaced later, so it is not what is found.
      refine ⟨.inl, fun h => h.resolve_right ?_⟩
      rintro ⟨hnot, ⟨⟩⟩
      exact hnot hmem
    · next hnot =>
      rw [List.mem_cons, or_comm]
      refine or_congr_right ⟨fun heq => ⟨?_, heq⟩, And.right⟩
      cases heq
      exact hnot

/-- A row gives the table of which it has the entries, in any order, when the counts that
are replaced in it are left out. -/
theorem ofList_eq_of_perm (h : (latest row).Perm counts.entries) : ofList row = counts := by
  refine ext_get? fun name => Option.ext fun n => ?_
  rw [get?_ofList, ← mem_latest_iff, h.mem_iff, ← get?_eq_some_iff]

end QueryGuard.Counts
