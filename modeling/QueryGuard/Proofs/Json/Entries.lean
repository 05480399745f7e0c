import QueryGuard.Json.Basic
import QueryGuard.Proofs.Basic

/-!
# `QueryGuard.Proofs.Json.Entries`: an object is its entries

A text has one of two forms as a document, by whether it consists of characters, and so
has an object, by whether all its names do. What is read off a document does not depend on
its form: a text is shown as it is (`display_ofWording`), a row of entries gives an object
with these entries (`entries?_ofEntries`), and a field is what a look-up among the entries
finds (`field?_eq_lookup`).
-/

set_option autoImplicit false

namespace QueryGuard.Json

variable {j : Json} {entries : List (Wording × Json)}

/-! ### Texts -/

/-- A text of characters is a plain text of a document. -/
theorem ofWording_ofString (s : String) : ofWording s = .string s := by
  rw [ofWording, Wording.plain?_ofString]

/-- A text with halves is the other kind. -/
theorem ofWording_of_halved {w : Wording} (h : w.plain? = none) : ofWording w = .halved w := by
  rw [ofWording, h]

/-- A text is shown as it is. -/
theorem display_ofWording (w : Wording) : (ofWording w).display = w := by
  cases h : w.plain? with
  | none => rw [ofWording_of_halved h, display]
  | some s =>
    rw [← Wording.ofString_of_plain? h, ofWording_ofString, display]

/-! ### Objects -/

/-- The entries of fields whose names consist of characters. -/
def entriesOf (fields : Fields Json) : List (Wording × Json) := fields.map fun f => (f.1, f.2)

/-- The entries of an object have distinct names if its fields do. -/
theorem nodup_names_entriesOf {fields : Fields Json} :
    ((entriesOf fields).map Prod.fst).Nodup ↔ (fields.map Prod.fst).Nodup := by
  simp only [entriesOf, List.Nodup, List.pairwise_map, ne_eq, Wording.ofString_inj]

/-- Entries whose names consist of characters are those of fields. -/
theorem entriesOf_of_mapM {fields : Fields Json}
    (h : (entries.mapM fun e => e.1.plain?.map (·, e.2)) = some fields) :
    entriesOf fields = entries := by
  -- On the entries. Each name was text, so making a wording of that text gives it back.
  induction entries generalizing fields with
  | nil =>
    cases h
    rfl
  | cons e rest ih =>
    rw [List.mapM_cons] at h
    obtain ⟨field, hfield, hrest⟩ := Option.bind_eq_some_iff.1 h
    obtain ⟨others, hothers, hfields⟩ := Option.bind_eq_some_iff.1 hrest
    obtain ⟨name, hname, rfl⟩ := Option.map_eq_some_iff.1 hfield
    cases hfields
    show (Wording.ofString name, e.2) :: entriesOf others = e :: rest
    rw [ih hothers, Wording.ofString_of_plain? hname]

/-- An object of characters is made of its entries. -/
theorem ofEntries_entriesOf (fields : Fields Json) : ofEntries (entriesOf fields) = .object fields := by
  have hplain : ((entriesOf fields).mapM fun e => e.1.plain?.map (·, e.2)) = some fields := by
    induction fields with
    | nil => rfl
    | cons f rest ih =>
      have hhead : (Wording.ofString f.1).plain?.map (·, f.2) = some f := by
        rw [Wording.plain?_ofString]
        rfl
      show ((Wording.ofString f.1, f.2) :: entriesOf rest).mapM _ = _
      rw [List.mapM_cons, hhead, ih]
      rfl
  rw [ofEntries, hplain]

/-- An object has the entries that it was made of. -/
theorem entries?_ofEntries (entries : List (Wording × Json)) :
    (ofEntries entries).entries? = some entries := by
  unfold ofEntries
  cases hmap : entries.mapM fun e => e.1.plain?.map (·, e.2) with
  | none => rfl
  | some fields => exact congrArg some (entriesOf_of_mapM hmap)

/-- The value of a field is looked up among the entries. -/
theorem field?_eq_lookup (h : j.entries? = some entries) (name : String) :
    j.field? name = entries.lookup (name : Wording) := by
  cases j with
  | object fields =>
    cases h
    exact (lookup_map_name (fun _ _ => Wording.ofString_inj.1) name fields).symm
  | mixed others =>
    cases h
    rfl
  | _ => cases h

/-- Only an object has fields. -/
theorem field?_of_entries?_eq_none (h : j.entries? = none) (name : String) :
    j.field? name = none := by
  cases j with
  | object fields => cases h
  | mixed entries => cases h
  | _ => rfl

/-- A field that is there is a field of an object. -/
theorem exists_entries?_of_field? {v : Json} {name : String} (h : j.field? name = some v) :
    ∃ entries, j.entries? = some entries := by
  cases hentries : j.entries? with
  | some entries => exact ⟨entries, rfl⟩
  | none => cases (field?_of_entries?_eq_none hentries name).symm.trans h

end QueryGuard.Json
