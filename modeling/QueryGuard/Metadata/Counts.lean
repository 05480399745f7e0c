import QueryGuard.Text.Wording

/-!
# `QueryGuard.Metadata.Counts`: how many of each

Counts by name, kept in the order of the names so that two tables with
the same counts are equal. A name without a count has not been
observed, which is not the same as none.
-/

set_option autoImplicit false

namespace QueryGuard

/-- A table of counts. -/
structure Counts where
  entries : List (Wording × Int)
  ascending : entries.Pairwise fun a b => a.1 < b.1
  deriving DecidableEq

namespace Counts

/-- No counts. -/
def empty : Counts := ⟨[], List.Pairwise.nil⟩

instance : Inhabited Counts := ⟨empty⟩

/-- Put a count into its place in the order, instead of the one of the
same name if there is one. -/
def insertEntry (name : Wording) (count : Int) : List (Wording × Int) → List (Wording × Int)
  | [] => [(name, count)]
  | (n, c) :: rest =>
    if name < n then (name, count) :: (n, c) :: rest
    else if name = n then (name, count) :: rest
    else (n, c) :: insertEntry name count rest

theorem fst_of_mem_insertEntry {name : Wording} {count : Int} {entries : List (Wording × Int)}
    {e : Wording × Int} (h : e ∈ insertEntry name count entries) :
    e.1 = name ∨ ∃ f ∈ entries, f.1 = e.1 := by
  induction entries with
  | nil =>
    simp only [insertEntry, List.mem_singleton] at h
    exact Or.inl (by rw [h])
  | cons f rest ih =>
    obtain ⟨n, c⟩ := f
    unfold insertEntry at h
    split at h
    · rcases List.mem_cons.1 h with rfl | h
      · exact Or.inl rfl
      · exact Or.inr ⟨e, h, rfl⟩
    · split at h
      · rcases List.mem_cons.1 h with rfl | h
        · exact Or.inl rfl
        · exact Or.inr ⟨e, List.mem_cons_of_mem _ h, rfl⟩
      · rcases List.mem_cons.1 h with rfl | h
        · exact Or.inr ⟨(n, c), List.mem_cons_self, rfl⟩
        · rcases ih h with h | ⟨f, hf, h⟩
          · exact Or.inl h
          · exact Or.inr ⟨f, List.mem_cons_of_mem _ hf, h⟩

theorem pairwise_insertEntry {name : Wording} {count : Int} {entries : List (Wording × Int)}
    (h : entries.Pairwise fun a b => a.1 < b.1) :
    (insertEntry name count entries).Pairwise fun a b => a.1 < b.1 := by
  induction entries with
  | nil => simp [insertEntry]
  | cons f rest ih =>
    obtain ⟨n, c⟩ := f
    obtain ⟨hn, hrest⟩ := List.pairwise_cons.1 h
    unfold insertEntry
    split
    · next hlt =>
      refine List.pairwise_cons.2 ⟨fun e he => ?_, h⟩
      rcases List.mem_cons.1 he with rfl | he
      · exact hlt
      · exact Wording.lt_trans hlt (hn e he)
    · split
      · next heq =>
        subst heq
        exact List.pairwise_cons.2 ⟨hn, hrest⟩
      · next hnlt hne =>
        have hlt : n < name :=
          Decidable.byContradiction fun hngt => hne (Wording.eq_of_not_lt hnlt hngt)
        refine List.pairwise_cons.2 ⟨fun e he => ?_, ih hrest⟩
        rcases fst_of_mem_insertEntry he with h | ⟨g, hg, h⟩
        · rw [h]; exact hlt
        · rw [← h]; exact hn g hg

/-- A table with a count set. -/
def insert (counts : Counts) (name : Wording) (count : Int) : Counts :=
  ⟨insertEntry name count counts.entries, pairwise_insertEntry counts.ascending⟩

/-- The table of a row of counts, the last of a name winning. -/
def ofList (entries : List (Wording × Int)) : Counts :=
  entries.foldl (fun counts e => counts.insert e.1 e.2) empty

/-- The count of a name. -/
def get? (counts : Counts) (name : Wording) : Option Int := counts.entries.lookup name

/-- How many names have a count. -/
def size (counts : Counts) : Nat := counts.entries.length

end Counts

end QueryGuard
