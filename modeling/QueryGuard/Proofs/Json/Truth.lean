import QueryGuard.Json.Truth
import QueryGuard.Proofs.Json.Entries
import QueryGuard.Proofs.Text.Wording

/-!
# `QueryGuard.Proofs.Json.Truth`: documents that can be sent

A test holds everywhere in a document if it holds of the document itself and everywhere in
its members (`everywhere_array_iff`, `everywhere_iff_entries`).

Whoever sends a document has to find two things everywhere in it: numbers that are finite,
and texts that consist of characters. `Sendable` asks for both, and the lemmas here say
what it comes to for each kind of document. None of them looks at the form of an object.
-/

set_option autoImplicit false

namespace QueryGuard.Json

variable {test : Json → Bool} {j : Json} {entries : List (Wording × Json)} {name : String}

/-- A test holds everywhere in a row of items if it does in each of them. -/
theorem everywhereItems_iff {items : List Json} :
    everywhereItems test items = true ↔ ∀ j ∈ items, j.everywhere test = true := by
  induction items with
  | nil => exact ⟨fun _ => nofun, fun _ => rfl⟩
  | cons item rest ih => rw [everywhereItems, Bool.and_eq_true, ih, List.forall_mem_cons]

/-- The same for fields and their values. -/
theorem everywhereFields_iff {fields : Fields Json} :
    everywhereFields test fields = true ↔ ∀ f ∈ fields, f.2.everywhere test = true := by
  induction fields with
  | nil => exact ⟨fun _ => nofun, fun _ => rfl⟩
  | cons field rest ih =>
    obtain ⟨name, value⟩ := field
    rw [everywhereFields, Bool.and_eq_true, ih, List.forall_mem_cons]

/-- The same for entries and their values. -/
theorem everywhereEntries_iff :
    everywhereEntries test entries = true ↔ ∀ e ∈ entries, e.2.everywhere test = true := by
  induction entries with
  | nil => exact ⟨fun _ => nofun, fun _ => rfl⟩
  | cons entry rest ih =>
    obtain ⟨name, value⟩ := entry
    rw [everywhereEntries, Bool.and_eq_true, ih, List.forall_mem_cons]

/-- A test holds everywhere in an array if it holds of it and everywhere in its items. -/
theorem everywhere_array_iff {items : List Json} :
    (array items).everywhere test = true ↔
      test (.array items) = true ∧ ∀ j ∈ items, j.everywhere test = true := by
  rw [everywhere, Bool.and_eq_true, everywhereItems_iff]

/-- The members of an object are the values of its entries, whatever its form. -/
theorem everywhere_iff_entries (h : j.entries? = some entries) :
    j.everywhere test = true ↔ test j = true ∧ ∀ e ∈ entries, e.2.everywhere test = true := by
  cases j with
  | object fields =>
    cases h
    rw [everywhere, Bool.and_eq_true, everywhereFields_iff, List.forall_mem_map]
  | mixed others =>
    cases h
    rw [everywhere, Bool.and_eq_true, everywhereEntries_iff]
  | _ => cases h

/-- A field is a member. -/
theorem everywhere_of_field? {v : Json} (h : j.everywhere test = true)
    (hv : j.field? name = some v) : v.everywhere test = true := by
  obtain ⟨entries, hentries⟩ := exists_entries?_of_field? hv
  rw [field?_eq_lookup hentries] at hv
  obtain ⟨before, after, heq, -⟩ := List.lookup_eq_some_iff.1 hv
  have hmem : ((name : Wording), v) ∈ entries :=
    heq ▸ List.mem_append_right before List.mem_cons_self
  exact ((everywhere_iff_entries hentries).1 h).2 _ hmem

/-! ### Finite numbers and characters -/

/-- All numbers of a document are finite, and all its texts consist of characters. -/
def Sendable (j : Json) : Prop := j.isFinite = true ∧ j.isText = true

instance (j : Json) : Decidable j.Sendable := inferInstanceAs (Decidable (_ ∧ _))

/-- The empty document can be sent. -/
theorem sendable_null : Sendable .null := ⟨rfl, rfl⟩

/-- A truth value can be sent. -/
theorem sendable_bool (b : Bool) : Sendable (.bool b) := ⟨rfl, rfl⟩

/-- A whole number can be sent. -/
theorem sendable_int (n : Int) : Sendable (.int n) := ⟨rfl, rfl⟩

/-- A text of characters can be sent. -/
theorem sendable_string (s : String) : Sendable (.string s) := ⟨rfl, rfl⟩

/-- A text can be sent if it consists of characters. -/
theorem sendable_ofWording_iff {w : Wording} : (ofWording w).Sendable ↔ w.isPlain = true := by
  cases h : w.plain? with
  | some s =>
    rw [ofWording, h]
    exact iff_of_true (sendable_string s) (Wording.isPlain_iff.2 ⟨s, Wording.ofString_of_plain? h⟩)
  | none =>
    rw [ofWording, h]
    exact ⟨And.right, fun hplain => ⟨rfl, hplain⟩⟩

/-- An array can be sent if its items can. -/
theorem sendable_array_iff {items : List Json} :
    (array items).Sendable ↔ ∀ j ∈ items, j.Sendable := by
  unfold Sendable isFinite isText
  rw [everywhere_array_iff, everywhere_array_iff]
  simp only [hasSize, hasCharacters, true_and, forall_and]

/-- An object can be sent if its names consist of characters and its values can be sent. -/
theorem sendable_iff_entries (h : j.entries? = some entries) :
    j.Sendable ↔ (∀ e ∈ entries, e.1.isPlain = true) ∧ ∀ e ∈ entries, e.2.Sendable := by
  have hsize : hasSize j = true := by
    cases j with
    | number n => cases h
    | _ => rfl
  -- The names of a plain object are text by their type.
  have hnames : hasCharacters j = true ↔ ∀ e ∈ entries, e.1.isPlain = true := by
    cases j with
    | object fields =>
      cases h
      rw [List.forall_mem_map]
      exact iff_of_true rfl fun f _ => Wording.isPlain_ofString f.1
    | mixed others =>
      cases h
      exact List.all_eq_true
    | _ => cases h
  unfold Sendable isFinite isText
  rw [everywhere_iff_entries h, everywhere_iff_entries h, hnames, hsize]
  simp only [true_and, forall_and]
  exact and_left_comm

/-- An object of characters can be sent if its values can. -/
theorem sendable_object_iff {fields : Fields Json} :
    (object fields).Sendable ↔ ∀ f ∈ fields, f.2.Sendable := by
  rw [sendable_iff_entries rfl, List.forall_mem_map, List.forall_mem_map]
  exact and_iff_right fun f _ => Wording.isPlain_ofString f.1

/-- An object without fields can be sent. -/
theorem sendable_object_nil : (object []).Sendable := ⟨rfl, rfl⟩

/-- The fields of what can be sent can be sent. -/
theorem Sendable.field? {v : Json} (h : j.Sendable) (hv : j.field? name = some v) : v.Sendable :=
  ⟨everywhere_of_field? h.1 hv, everywhere_of_field? h.2 hv⟩

end QueryGuard.Json
