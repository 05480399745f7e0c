import QueryGuard.Json.Decoder
import QueryGuard.Proofs.Json.Entries

/-!
# `QueryGuard.Proofs.Json.Distinct`: no name twice in an object

A text may name a field of an object twice; the document that is read keeps one of the
two (`Fields.nodup_ofList`). So in a document that was read no object has a name twice,
at any depth (`Json.distinct_of_decodeBody`), and what a look-up in it finds is all that
there is.
-/

set_option autoImplicit false

namespace QueryGuard

namespace Fields

variable {κ α : Type} [DecidableEq κ] {fields settings : List (κ × α)} {f : κ × α} {name : κ}
  {value : α}

/-- Setting a field adds its name at most. -/
theorem mem_names_set_iff {other : κ} :
    other ∈ (Fields.set fields name value).map Prod.fst ↔
      other ∈ fields.map Prod.fst ∨ other = name := by
  induction fields with
  | nil => simp [Fields.set]
  | cons field rest ih =>
    obtain ⟨n, v⟩ := field
    by_cases h : n = name
    · simp [Fields.set, h, or_comm]
    · rw [Fields.set, if_neg h, List.map_cons, List.mem_cons, ih, List.map_cons, List.mem_cons,
        or_assoc]

/-- Setting a field keeps the names distinct. -/
theorem nodup_set (h : (fields.map Prod.fst).Nodup) :
    ((Fields.set fields name value).map Prod.fst).Nodup := by
  induction fields with
  | nil => simp [Fields.set]
  | cons field rest ih =>
    obtain ⟨n, v⟩ := field
    rw [List.map_cons, List.nodup_cons] at h
    by_cases hn : n = name
    · subst hn
      simpa [Fields.set] using h
    · rw [Fields.set, if_neg hn, List.map_cons, List.nodup_cons, mem_names_set_iff, not_or]
      exact ⟨⟨h.1, hn⟩, ih h.2⟩

/-- Setting a field adds that field at most. -/
theorem mem_set (hf : f ∈ Fields.set fields name value) : f ∈ fields ∨ f = (name, value) := by
  induction fields with
  | nil => exact .inr (List.mem_singleton.1 hf)
  | cons field rest ih =>
    obtain ⟨n, v⟩ := field
    by_cases hn : n = name
    · rw [Fields.set, if_pos hn] at hf
      rcases List.mem_cons.1 hf with rfl | hrest
      · exact .inr (by rw [hn])
      · exact .inl (List.mem_cons_of_mem _ hrest)
    · rw [Fields.set, if_neg hn] at hf
      rcases List.mem_cons.1 hf with rfl | hrest
      · exact .inl List.mem_cons_self
      · rcases ih hrest with hold | hnew
        · exact .inl (List.mem_cons_of_mem _ hold)
        · exact .inr hnew

/-- What holds of no settings and is kept by each setting holds of a row of them. -/
theorem ofList_induction {P : List (κ × α) → Prop} (nil : P [])
    (set : ∀ fields, P fields → ∀ s ∈ settings, P (Fields.set fields s.1 s.2)) :
    P (Fields.ofList settings) := by
  unfold Fields.ofList
  generalize [] = before at nil
  induction settings generalizing before with
  | nil => exact nil
  | cons s rest ih =>
    have hfirst : P (Fields.set before s.1 s.2) := set _ nil s List.mem_cons_self
    exact ih (fun fields h t ht => set fields h t (List.mem_cons_of_mem _ ht)) _ hfirst

/-- A row of settings gives each name once. -/
theorem nodup_ofList : ((Fields.ofList settings).map Prod.fst).Nodup := by
  refine ofList_induction (P := fun fields : List (κ × α) => (fields.map Prod.fst).Nodup) ?_ ?_
  · exact List.nodup_nil
  · exact fun fields h s _ => nodup_set h

/-- It gives nothing that was not set. -/
theorem mem_of_mem_ofList (hf : f ∈ Fields.ofList settings) : f ∈ settings := by
  have hall : ∀ g ∈ Fields.ofList settings, g ∈ settings := by
    refine ofList_induction (P := fun fields : List (κ × α) => ∀ g ∈ fields, g ∈ settings) nofun ?_
    intro fields h s hs g hg
    rcases mem_set hg with hold | rfl
    · exact h g hold
    · exact hs
  exact hall f hf

end Fields

namespace Json

/-- No object of a document has a name twice. -/
inductive Distinct : Json → Prop where
  | null : Distinct .null
  | bool (b : Bool) : Distinct (.bool b)
  | number (n : Number) : Distinct (.number n)
  | string (s : String) : Distinct (.string s)
  | halved (w : Wording) : Distinct (.halved w)
  | array {items : List Json} (items_distinct : ∀ j ∈ items, Distinct j) :
    Distinct (.array items)
  | object {fields : Fields Json} (names : (fields.map Prod.fst).Nodup)
    (values : ∀ f ∈ fields, Distinct f.2) : Distinct (.object fields)
  | mixed {entries : List (Wording × Json)} (names : (entries.map Prod.fst).Nodup)
    (values : ∀ e ∈ entries, Distinct e.2) : Distinct (.mixed entries)

/-- A text has no fields. -/
theorem distinct_ofWording (w : Wording) : (ofWording w).Distinct := by
  unfold ofWording
  cases w.plain? with
  | some s => exact .string s
  | none => exact .halved w

/-- The entries of an object are distinct in either of its forms. -/
theorem distinct_iff_entries {j : Json} {entries : List (Wording × Json)}
    (h : j.entries? = some entries) :
    j.Distinct ↔ (entries.map Prod.fst).Nodup ∧ ∀ e ∈ entries, e.2.Distinct := by
  -- An object's names are text or not, and the two kinds keep them differently.
  cases j with
  | object fields =>
    cases h
    show Distinct (.object fields) ↔
      ((entriesOf fields).map Prod.fst).Nodup ∧ ∀ e ∈ entriesOf fields, e.2.Distinct
    rw [nodup_names_entriesOf, entriesOf, List.forall_mem_map]
    constructor
    · rintro (_ | _)
      exact ⟨‹_›, ‹_›⟩
    · rintro ⟨names, values⟩
      exact .object names values
  | mixed others =>
    cases h
    constructor
    · rintro (_ | _)
      exact ⟨‹_›, ‹_›⟩
    · rintro ⟨names, values⟩
      exact .mixed names values
  | _ => cases h

namespace Decoder

variable {fuel : Nat} {cs rest : List Char} {j : Json}

/-- What is read without brackets has no fields. -/
theorem distinct_of_scalar (h : scalar cs = .ok (j, rest)) : j.Distinct := by
  unfold scalar at h
  split at h
  · next found hfound =>
    cases h
    obtain ⟨⟨word, v⟩, hmem, hword⟩ := List.exists_of_findSome?_eq_some hfound
    obtain ⟨left, -, hv⟩ := Option.map_eq_some_iff.1 hword
    cases hv
    -- A word that is found is one of the six named values, otherwise it is a numeral.
    simp only [namedValues, List.mem_cons, List.not_mem_nil, or_false, Prod.mk.injEq] at hmem
    rcases hmem with ⟨-, rfl⟩ | ⟨-, rfl⟩ | ⟨-, rfl⟩ | ⟨-, rfl⟩ | ⟨-, rfl⟩ | ⟨-, rfl⟩
    · exact .null
    · exact .bool true
    · exact .bool false
    · exact .number _
    · exact .number _
    · exact .number _
  · split at h
    · cases h
      exact .number _
    · cases h
    · cases h

/-- What the three readers give with some fuel has no name twice, whatever they start
from. -/
structure ReadsDistinct (fuel : Nat) : Prop where
  value : ∀ cs j rest, value fuel cs = .ok (j, rest) → j.Distinct
  elements : ∀ cs items rest, elements fuel cs = .ok (items, rest) → ∀ j ∈ items, j.Distinct
  members : ∀ cs entries rest, members fuel cs = .ok (entries, rest) →
    ∀ e ∈ entries, e.2.Distinct

/-- Without fuel nothing is read. -/
theorem readsDistinct_zero : ReadsDistinct 0 where
  value cs j rest h := by
    rw [Decoder.value] at h
    cases h
  elements cs items rest h := by
    rw [Decoder.elements] at h
    cases h
  members cs entries rest h := by
    rw [Decoder.members] at h
    cases h

namespace ReadsDistinct

/-- The step for a document: each kind is read with one fuel less. -/
theorem value_succ (hfuel : ReadsDistinct fuel) (h : Decoder.value (fuel + 1) cs = .ok (j, rest)) :
    j.Distinct := by
  -- A string, an array, an object, or else a scalar, as the first character says.
  rw [value.eq_def] at h
  simp only at h
  split at h
  · obtain ⟨⟨w, left⟩, -, hw⟩ := exists_of_bind_eq_ok h
    cases hw
    exact distinct_ofWording w
  · split at h
    · cases h
      exact .array nofun
    · obtain ⟨⟨items, left⟩, hitems, hs⟩ := exists_of_bind_eq_ok h
      cases hs
      exact .array (hfuel.elements _ _ _ hitems)
  · split at h
    · cases h
      exact .object List.nodup_nil nofun
    · obtain ⟨⟨entries, left⟩, hentries, hs⟩ := exists_of_bind_eq_ok h
      cases hs
      -- The last entry of a name is the one kept, so names come once.
      refine (distinct_iff_entries (entries?_ofEntries _)).2 ⟨Fields.nodup_ofList, fun e he => ?_⟩
      exact hfuel.members _ _ _ hentries e (Fields.mem_of_mem_ofList he)
  · exact distinct_of_scalar h

/-- The step for the items of an array. -/
theorem elements_succ {items : List Json} (hfuel : ReadsDistinct fuel)
    (h : Decoder.elements (fuel + 1) cs = .ok (items, rest)) : ∀ j ∈ items, j.Distinct := by
  rw [Decoder.elements] at h
  obtain ⟨⟨item, left⟩, hitem, h⟩ := exists_of_bind_eq_ok h
  have hfirst : item.Distinct := hfuel.value _ _ _ hitem
  simp only at h
  split at h
  · cases h
    exact List.forall_mem_singleton.2 hfirst
  · obtain ⟨⟨others, left⟩, hothers, hs⟩ := exists_of_bind_eq_ok h
    cases hs
    exact List.forall_mem_cons.2 ⟨hfirst, hfuel.elements _ _ _ hothers⟩
  · cases h

/-- The step for the fields of an object. -/
theorem members_succ {entries : List (Wording × Json)} (hfuel : ReadsDistinct fuel)
    (h : Decoder.members (fuel + 1) cs = .ok (entries, rest)) : ∀ e ∈ entries, e.2.Distinct := by
  rw [members.eq_def] at h
  simp only at h
  -- After a value comes the end, a comma with more members, or a mistake.
  split at h
  · obtain ⟨⟨name, left⟩, -, h⟩ := exists_of_bind_eq_ok h
    simp only at h
    split at h
    · obtain ⟨⟨v, left⟩, hv, h⟩ := exists_of_bind_eq_ok h
      have hfirst : v.Distinct := hfuel.value _ _ _ hv
      simp only at h
      split at h
      · cases h
        exact List.forall_mem_singleton.2 hfirst
      · obtain ⟨⟨others, left⟩, hothers, hs⟩ := exists_of_bind_eq_ok h
        cases hs
        exact List.forall_mem_cons.2 ⟨hfirst, hfuel.members _ _ _ hothers⟩
      · cases h
    · cases h
  · cases h

end ReadsDistinct

/-- What the three readers give has no name twice. -/
theorem readsDistinct (fuel : Nat) : ReadsDistinct fuel := by
  -- Each reader calls the others with less fuel, so the three go together.
  induction fuel with
  | zero => exact readsDistinct_zero
  | succ fuel ih =>
    exact ⟨fun _ _ _ => ih.value_succ, fun _ _ _ => ih.elements_succ, fun _ _ _ => ih.members_succ⟩

end Decoder

/-- A document that is read has distinct names. -/
theorem distinct_of_ofChars? {cs : List Char} {j : Json} (h : ofChars? cs = .ok j) :
    j.Distinct := by
  unfold ofChars? at h
  cases hdoc : Decoder.document cs with
  | error stop =>
    rw [hdoc] at h
    cases h
  | ok v =>
    rw [hdoc] at h
    cases h
    -- A document is one value with nothing behind it.
    obtain ⟨⟨v, rest⟩, hv, hrest⟩ := exists_of_bind_eq_ok hdoc
    simp only at hrest
    split at hrest
    · cases hrest
      exact (Decoder.readsDistinct _).value _ _ _ hv
    · cases hrest

/-- A document that was read from a body has no name twice in any object. -/
theorem distinct_of_decodeBody {body : String} {j : Json} (h : decodeBody body = .ok j) :
    j.Distinct := by
  unfold decodeBody at h
  split at h
  · split at h
    · exact distinct_of_ofChars? h
    · exact distinct_of_ofChars? h
  · exact distinct_of_ofChars? h

end Json

end QueryGuard
