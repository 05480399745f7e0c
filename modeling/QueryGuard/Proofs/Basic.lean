/-!
# `QueryGuard.Proofs.Basic`: rows of named values, and computations that can fail

Facts that do not belong to one theory of this library: what a look-up finds in a row of
named values, and what a computation in steps that succeeds comes from.
-/

set_option autoImplicit false

namespace QueryGuard

section
variable {κ α : Type} [DecidableEq κ]

/-- A look-up tries the first member, and then the others. -/
theorem lookup_cons_eq_ite (name other : κ) (value : α) (rest : List (κ × α)) :
    List.lookup other ((name, value) :: rest) =
      if other = name then some value else rest.lookup other := by
  rw [List.lookup_cons]
  by_cases h : other = name
  · simp [h]
  · simp [beq_false_of_ne h, h]

/-- A look-up by the name of a member finds that member if no name comes twice. -/
theorem lookup_of_mem_of_nodup {fields : List (κ × α)} {f : κ × α} (hf : f ∈ fields)
    (once : (fields.map (·.1)).Nodup) : fields.lookup f.1 = some f.2 := by
  induction fields with
  | nil => cases hf
  | cons g rest ih =>
    rw [List.map_cons, List.nodup_cons] at once
    rcases List.mem_cons.1 hf with rfl | hf
    · exact List.lookup_cons_self
    · have hne : f.1 ≠ g.1 := fun heq => once.1 (heq ▸ List.mem_map_of_mem hf)
      rw [List.lookup_cons, beq_false_of_ne hne]
      exact ih hf once.2

end

/-- A look-up in a row whose names have all been changed, by a change that keeps them
apart. -/
theorem lookup_map_name {κ κ' α : Type} [DecidableEq κ] [DecidableEq κ'] {rename : κ → κ'}
    (apart : ∀ a b, rename a = rename b → a = b) (name : κ) (fields : List (κ × α)) :
    (fields.map fun f => (rename f.1, f.2)).lookup (rename name) = fields.lookup name := by
  induction fields with
  | nil => rfl
  | cons f rest ih =>
    obtain ⟨key, value⟩ := f
    rw [List.map_cons, lookup_cons_eq_ite, lookup_cons_eq_ite, ih]
    by_cases h : name = key
    · rw [if_pos h, if_pos (congrArg rename h)]
    · rw [if_neg h, if_neg fun heq => h (apart _ _ heq)]

/-- A computation in two steps succeeds by the second step, from what the first gives. -/
theorem exists_of_bind_eq_ok {ε α β : Type} {x : Except ε α} {f : α → Except ε β} {b : β}
    (h : x >>= f = .ok b) : ∃ a, x = .ok a ∧ f a = .ok b := by
  cases x with
  | error e => cases h
  | ok a => exact ⟨a, rfl, h⟩

end QueryGuard
