import QueryGuard.Text.Wording

/-!
# `QueryGuard.Proofs.Text.Wording`: wordings that consist of characters

A wording without halves is the wording of a text (`Wording.isPlain_iff`). So what is put
together from such wordings is one too (`Wording.isPlain_append`).
-/

set_option autoImplicit false

namespace QueryGuard.Wording

variable {w v : Wording}

/-- A wording without halves is that of a text. -/
theorem isPlain_iff : w.isPlain = true ↔ ∃ s : String, ofString s = w := by
  unfold isPlain
  rw [Option.isSome_iff_exists]
  constructor
  · rintro ⟨s, hs⟩
    exact ⟨s, ofString_of_plain? hs⟩
  · rintro ⟨s, rfl⟩
    exact ⟨s, plain?_ofString s⟩

/-- The wording of a text has no halves. -/
theorem isPlain_ofString (s : String) : (ofString s).isPlain = true := isPlain_iff.2 ⟨s, rfl⟩

/-- What is put together from characters consists of characters. -/
theorem isPlain_append (hw : w.isPlain = true) (hv : v.isPlain = true) :
    (w ++ v).isPlain = true := by
  obtain ⟨s, rfl⟩ := isPlain_iff.1 hw
  obtain ⟨t, rfl⟩ := isPlain_iff.1 hv
  exact isPlain_iff.2 ⟨s ++ t, ofString_append s t⟩

end QueryGuard.Wording
