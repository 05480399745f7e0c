/-!
# `QueryGuard.Text.Ascending`: sets of names in order

Names are reported in the order of their code points, each once. Main
statements: `mem_ascending` says that no name is lost or added,
`pairwise_ascending` that the result is strictly ascending.
-/

set_option autoImplicit false

namespace QueryGuard.Text

/-- Put a name into its place in an ascending list, unless it is there
already. -/
def insertAscending (name : String) : List String → List String
  | [] => [name]
  | x :: rest =>
    if name < x then name :: x :: rest
    else if name = x then x :: rest
    else x :: insertAscending name rest

/-- The names of a list in ascending order, each once. -/
def ascending (names : List String) : List String := names.foldr insertAscending []

theorem mem_insertAscending {x name : String} {names : List String} :
    x ∈ insertAscending name names ↔ x = name ∨ x ∈ names := by
  induction names with
  | nil => simp [insertAscending]
  | cons y rest ih =>
    unfold insertAscending
    split
    · simp
    · split
      · next h => subst h; simp
      · simp only [List.mem_cons, ih]
        constructor
        · rintro (h | h | h) <;> simp [h]
        · rintro (h | h | h) <;> simp [h]

/-- Sorting neither loses nor adds a name. -/
theorem mem_ascending {x : String} {names : List String} : x ∈ ascending names ↔ x ∈ names := by
  induction names with
  | nil => simp [ascending]
  | cons y rest ih =>
    have : ascending (y :: rest) = insertAscending y (ascending rest) := rfl
    rw [this, mem_insertAscending, ih, List.mem_cons]

theorem pairwise_insertAscending {name : String} {names : List String}
    (h : names.Pairwise (· < ·)) : (insertAscending name names).Pairwise (· < ·) := by
  induction names with
  | nil => simp [insertAscending]
  | cons y rest ih =>
    obtain ⟨hy, hrest⟩ := List.pairwise_cons.1 h
    unfold insertAscending
    split
    · next hlt =>
      refine List.pairwise_cons.2 ⟨fun z hz => ?_, h⟩
      rcases List.mem_cons.1 hz with rfl | hz
      · exact hlt
      · exact String.lt_trans hlt (hy z hz)
    · split
      · exact h
      · next hnlt hne =>
        have hyn : y < name := by
          rcases Std.lt_trichotomy name y with hlt | heq | hgt
          · exact absurd hlt hnlt
          · exact absurd heq hne
          · exact hgt
        refine List.pairwise_cons.2 ⟨fun z hz => ?_, ih hrest⟩
        rcases mem_insertAscending.1 hz with rfl | hz
        · exact hyn
        · exact hy z hz

/-- The names come in strictly ascending order. -/
theorem pairwise_ascending (names : List String) : (ascending names).Pairwise (· < ·) := by
  induction names with
  | nil => simp [ascending]
  | cons y rest ih => exact pairwise_insertAscending ih

end QueryGuard.Text
