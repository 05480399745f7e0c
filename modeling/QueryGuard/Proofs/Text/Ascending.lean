import Mathlib.Data.List.Nodup
import Mathlib.Order.Bounds.Defs
import QueryGuard.Text.Ascending

/-!
# `QueryGuard.Proofs.Text.Ascending`: the first of the ascending names is the least

Rules look for the first offender among names in ascending order.
`findSome?_ascending_eq_some` says which one that is: the least of the
names that offend, whatever order the names were collected in.
`findSome?_ascending_eq_none` is the other outcome, where no name offends.
`ascending_congr` is why the order of collecting never matters: the row has
no other order and no name twice.
-/

set_option autoImplicit false

namespace QueryGuard.Text

section
variable {α : Type} {names : List String} {search : String → Option α}

/-- A search along a strictly ascending row stops at the least name that it
finds something for. -/
theorem findSome?_eq_some_iff_of_pairwise (h : names.Pairwise (· < ·)) {a : α} :
    names.findSome? search = some a ↔
      ∃ x, IsLeast {y | y ∈ names ∧ (search y).isSome = true} x ∧ search x = some a := by
  -- The names ascend, so the first that is found is the least.
  rw [List.findSome?_eq_some_iff]
  constructor
  · rintro ⟨before, x, after, rfl, hx, hbefore⟩
    obtain ⟨-, hafter, -⟩ := List.pairwise_append.1 h
    refine ⟨x, ⟨⟨by simp, by rw [hx]; rfl⟩, ?_⟩, hx⟩
    rintro y ⟨hy, hsome⟩
    rcases List.mem_append.1 hy with hy | hy
    · rw [hbefore y hy] at hsome
      cases hsome
    · rcases List.mem_cons.1 hy with rfl | hy
      · exact String.lt_irrefl y
      · exact String.lt_asymm ((List.pairwise_cons.1 hafter).1 y hy)
  · rintro ⟨x, ⟨⟨hmem, -⟩, hleast⟩, hx⟩
    obtain ⟨before, after, rfl⟩ := List.append_of_mem hmem
    refine ⟨before, x, after, rfl, hx, fun y hy => ?_⟩
    have hyx : y < x := (List.pairwise_append.1 h).2.2 y hy x (by simp)
    cases hsearch : search y with
    | none => rfl
    | some b =>
      have hle : x ≤ y := hleast ⟨by simp [hy], by rw [hsearch]; rfl⟩
      exact absurd hyx hle

/-- The first of the ascending names that a search finds something for. -/
theorem findSome?_ascending_eq_some {a : α} :
    (ascending names).findSome? search = some a ↔
      ∃ x, IsLeast {y | y ∈ names ∧ (search y).isSome = true} x ∧ search x = some a := by
  rw [findSome?_eq_some_iff_of_pairwise (pairwise_ascending names)]
  simp only [mem_ascending]

/-- A search along the ascending names finds nothing when it finds nothing
for any of them. -/
theorem findSome?_ascending_eq_none :
    (ascending names).findSome? search = none ↔ ∀ y ∈ names, search y = none := by
  simp only [List.findSome?_eq_none_iff, mem_ascending]

end

/-- The ascending row depends on which names there are, and on nothing else. -/
theorem ascending_congr {names others : List String} (h : ∀ x, x ∈ names ↔ x ∈ others) :
    ascending names = ascending others := by
  have hnodup (row : List String) : (ascending row).Nodup := by
    refine (pairwise_ascending row).imp fun hlt heq => ?_
    rw [heq] at hlt
    exact String.lt_irrefl _ hlt
  have hperm : (ascending names).Perm (ascending others) := by
    rw [List.perm_ext_iff_of_nodup (hnodup names) (hnodup others)]
    intro x
    rw [mem_ascending, mem_ascending, h x]
  refine hperm.eq_of_pairwise ?_ (pairwise_ascending names) (pairwise_ascending others)
  exact fun _ _ _ _ hlt hgt => absurd hgt (String.lt_asymm hlt)

/-- Finding a name and then saying something about it is one search. -/
theorem map_find? {α : Type} (p : String → Bool) (f : String → α) (names : List String) :
    (names.find? p).map f = names.findSome? fun x => if p x then some (f x) else none := by
  rw [List.find?_eq_findSome?_guard, List.map_findSome?]
  congr 1
  funext x
  cases hp : p x <;> simp [Option.guard, hp]

/-- Saying something about the first name is a search that every name
satisfies. -/
theorem map_head? {α : Type} (f : String → α) (names : List String) :
    names.head?.map f = names.findSome? fun x => some (f x) := by
  cases names <;> rfl

end QueryGuard.Text
