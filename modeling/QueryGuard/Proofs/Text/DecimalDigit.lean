import Mathlib.Algebra.Order.Ring.Nat
import Mathlib.Data.List.Forall2
import QueryGuard.Text.Blank
import QueryGuard.Text.Case
import QueryGuard.Text.DecimalDigit

/-!
# `QueryGuard.Proofs.Text.DecimalDigit`: rows of decimal digits

A number that a user writes is a row of digits of whatever script, and what counts of
it are the values of the digits (`Text.Digits`). Before it is read, blanks are taken
off and letters are raised to capitals; neither touches a digit
(`isBlankChar_of_digitValue?`, `upperChar_of_digitValue?`), for the tables of blanks and
of letters hold none.

A number that is written out has ASCII digits. They are read back as the number
(`numberOfDigits_toDigits`), or as what of it fits in so many places
(`numberOfDigits_paddedDigits`).
-/

set_option autoImplicit false

namespace QueryGuard.Text

/-- The characters are decimal digits of these values. -/
def Digits (cs : List Char) (values : List Nat) : Prop :=
  List.Forall₂ (fun c d => digitValue? c = some d) cs values

section
variable {cs : List Char} {values : List Nat}

/-- Digits have values. -/
theorem Digits.ne_nil (h : Digits cs values) (hcs : cs ≠ []) : values ≠ [] := by
  intro hempty
  rw [hempty] at h
  cases h
  exact hcs rfl

/-- The values of digits are read off one by one. -/
theorem Digits.mapM_eq (h : Digits cs values) : cs.mapM digitValue? = some values := by
  induction h with
  | nil => rfl
  | cons hc _ ih =>
    rw [List.mapM_cons, hc, ih]
    rfl

/-- Every one of the digits is a digit. -/
theorem Digits.exists_digitValue? (h : Digits cs values) {c : Char} (hc : c ∈ cs) :
    ∃ d, digitValue? c = some d := by
  induction h with
  | nil => cases hc
  | @cons c' d cs values hd _ ih =>
    rcases List.mem_cons.1 hc with rfl | hrest
    · exact ⟨d, hd⟩
    · exact ih hrest

/-- What is no digit is none of them. -/
theorem Digits.not_mem (h : Digits cs values) {c : Char} (hc : digitValue? c = none) : c ∉ cs := by
  intro hmem
  obtain ⟨d, hd⟩ := h.exists_digitValue? hmem
  rw [hc] at hd
  cases hd

end

/-! ### What a digit is not -/

/-- A digit stands in a row of ten, and its value is its place there. -/
theorem exists_zeroDigit {c : Char} {d : Nat} (h : digitValue? c = some d) :
    ∃ z ∈ zeroDigits, z ≤ c.toNat ∧ c.toNat < z + 10 ∧ d = c.toNat - z := by
  unfold digitValue? at h
  obtain ⟨z, hz, rfl⟩ := Option.map_eq_some_iff.1 h
  have hspan := List.find?_some hz
  simp only [Bool.and_eq_true, decide_eq_true_eq] at hspan
  exact ⟨z, List.mem_of_find?_eq_some hz, hspan.1, hspan.2, rfl⟩

/-- None of the code points from `first` to `last` is a decimal digit. -/
def digitless (first last : Nat) : Bool :=
  -- The kernel compares numbers fast in this form.
  zeroDigits.all fun z => Nat.blt last z || Nat.blt (z + 9) first

/-- A range with a digit in it is not without digits. -/
theorem not_digitless {c : Char} {d first last : Nat} (hc : digitValue? c = some d)
    (hfirst : first ≤ c.toNat) (hlast : c.toNat ≤ last) : digitless first last = false := by
  obtain ⟨z, hz, hle, hlt, -⟩ := exists_zeroDigit hc
  refine List.all_eq_false.2 ⟨z, hz, ?_⟩
  simp only [Bool.or_eq_true, Nat.blt_eq]
  omega

/-- No decimal digit is blank. -/
theorem isBlankChar_of_digitValue? {c : Char} {d : Nat} (h : digitValue? c = some d) :
    isBlankChar c = false := by
  have hspans : (blankSpans.all fun s => digitless s.first s.last) = true := by decide +kernel
  refine List.any_eq_false.2 fun s hs hcover => ?_
  simp only [Bool.and_eq_true, decide_eq_true_eq] at hcover
  have hnone := not_digitless h hcover.1 hcover.2
  rw [List.all_eq_true.1 hspans s hs] at hnone
  cases hnone

/-- No decimal digit has a capital. -/
theorem upperChar_of_digitValue? {c : Char} {d : Nat} (h : digitValue? c = some d) :
    upperChar c = [c] := by
  -- The tables are searched once for a digit; none of their ranges has one.
  have hexpansions : (upperExpansions.all fun e => digitless e.1 e.1) = true := by decide +kernel
  have hruns : (upperRuns.all fun r => digitless r.first r.last) = true := by decide +kernel
  have hlookup : upperExpansions.lookup c.toNat = none := by
    refine List.lookup_eq_none_iff.2 fun e he => bne_iff_ne.2 fun heq => ?_
    have hnone := not_digitless h (Nat.le_of_eq heq.symm) (Nat.le_of_eq heq)
    rw [List.all_eq_true.1 hexpansions e he] at hnone
    cases hnone
  have hfind : upperRuns.find? (·.applies c.toNat) = none := by
    refine List.find?_eq_none.2 fun r hr happlies => ?_
    simp only [CaseRun.applies, Bool.and_eq_true, decide_eq_true_eq] at happlies
    have hnone := not_digitless h happlies.1.1 happlies.1.2
    rw [List.all_eq_true.1 hruns r hr] at hnone
    cases hnone
  unfold upperChar mapRuns
  rw [hlookup, hfind]

/-! ### Numbers that are written out -/

/-- The digits of a number are read as what they were written for. -/
theorem digitValue?_digitChar {d : Nat} (h : d < 10) : digitValue? (Nat.digitChar d) = some d := by
  revert d
  decide

/-- The digits of a number are written in ASCII. -/
theorem isAsciiDigit_digitChar {d : Nat} (h : d < 10) : isAsciiDigit (Nat.digitChar d) = true := by
  revert d
  decide

/-- The digits of ASCII are decimal digits. -/
theorem digitValue?_of_isAsciiDigit {c : Char} (h : isAsciiDigit c = true) :
    digitValue? c = some (c.toNat - 0x30) := by
  simp only [isAsciiDigit, Bool.and_eq_true, decide_eq_true_eq] at h
  have hspan : 0x30 ≤ c.toNat ∧ c.toNat < 0x30 + 10 := by
    have hlow : '0'.toNat ≤ c.toNat := h.1
    have hhigh : c.toNat ≤ '9'.toNat := h.2
    exact ⟨hlow, Nat.lt_succ_of_le hhigh⟩
  have hfind : zeroDigits.find? (fun z => z ≤ c.toNat && c.toNat < z + 10) = some 0x30 := by
    refine List.find?_cons_of_pos ?_
    simp only [hspan, decide_true, Bool.and_self]
  rw [digitValue?, hfind]
  rfl

/-- Digits of ASCII have the values of their code points. -/
theorem digits_of_ascii {cs : List Char} (h : ∀ c ∈ cs, isAsciiDigit c = true) :
    Digits cs (cs.map (·.toNat - 0x30)) := by
  induction cs with
  | nil => exact .nil
  | cons c rest ih =>
    obtain ⟨hc, hrest⟩ := List.forall_mem_cons.1 h
    exact .cons (digitValue?_of_isAsciiDigit hc) (ih hrest)

/-- Values below ten are written in digits. -/
theorem digits_map_digitChar {values : List Nat} (h : ∀ d ∈ values, d < 10) :
    Digits (values.map Nat.digitChar) values := by
  induction values with
  | nil => exact .nil
  | cons d rest ih =>
    obtain ⟨hd, hrest⟩ := List.forall_mem_cons.1 h
    exact .cons (digitValue?_digitChar hd) (ih hrest)

/-- A number is written in digits of ASCII. -/
theorem isAsciiDigit_of_mem_toDigits {n : Nat} {c : Char} (h : c ∈ Nat.toDigits 10 n) :
    isAsciiDigit c = true :=
  Nat.isDigit_of_mem_toDigits (by decide) (by decide) h

/-- A number that is written in digits is read back. -/
theorem numberOfDigits_toDigits (n : Nat) :
    numberOfDigits ((Nat.toDigits 10 n).map (·.toNat - 0x30)) = n := by
  unfold numberOfDigits
  rw [List.foldl_map]
  exact Nat.ofDigitChars_toDigits (by decide) (by decide)

/-- A whole number that is not zero does not start with a zero. -/
theorem exists_toDigits_eq_cons {n : Nat} (h : 0 < n) :
    ∃ c rest, Nat.toDigits 10 n = c :: rest ∧ c ≠ '0' := by
  induction n using Nat.strongRecOn with
  | ind n ih =>
    rw [Nat.toDigits_eq_if (by decide)]
    by_cases hlt : n < 10
    · rw [if_pos hlt]
      refine ⟨_, _, rfl, fun heq => ?_⟩
      have hvalue := Nat.toNat_digitChar_of_lt_ten hlt
      rw [heq] at hvalue
      have hzero : '0'.toNat = 48 := rfl
      omega
    · -- Without its last digit the number still starts with the same one.
      rw [if_neg hlt]
      obtain ⟨c, rest, hfirst, hne⟩ := ih (n / 10) (by omega) (by omega)
      rw [hfirst]
      exact ⟨c, _, rfl, hne⟩

/-- A whole number is written as its digits, behind a minus if it is less than
zero. -/
theorem toList_toString_ofNat (n : Nat) :
    (toString (Int.ofNat n)).toList = Nat.toDigits 10 n :=
  Nat.toList_repr

/-- A number below zero is written with a minus sign in front. -/
theorem toList_toString_negSucc (n : Nat) :
    (toString (Int.negSucc n)).toList = '-' :: Nat.toDigits 10 (n + 1) := by
  show ("-" ++ (n + 1).repr).toList = _
  rw [String.toList_append, Nat.toList_repr]
  rfl

/-! ### Numbers in so many places -/

/-- Padding fills the width. -/
theorem length_paddedDigits (width n : Nat) : (paddedDigits width n).length = width := by
  induction width generalizing n with
  | zero => rfl
  | succ width ih => rw [paddedDigits, List.length_append, ih, List.length_singleton]

/-- A width above zero leaves something to write. -/
theorem paddedDigits_ne_nil (width n : Nat) : paddedDigits (width + 1) n ≠ [] := by
  intro hempty
  have hlength := length_paddedDigits (width + 1) n
  rw [hempty] at hlength
  cases hlength

/-- Padding is written in digits too. -/
theorem isAsciiDigit_of_mem_paddedDigits {width n : Nat} {c : Char}
    (h : c ∈ paddedDigits width n) : isAsciiDigit c = true := by
  induction width generalizing n with
  | zero => cases h
  | succ width ih =>
    rw [paddedDigits, List.mem_append, List.mem_singleton] at h
    rcases h with hfront | rfl
    · exact ih hfront
    · exact isAsciiDigit_digitChar (Nat.mod_lt n (by decide))

/-- The last places of a number are read back, whatever stands before them. -/
theorem numberOfDigits_paddedDigits (width n : Nat) :
    numberOfDigits ((paddedDigits width n).map (·.toNat - 0x30)) = n % 10 ^ width := by
  -- On the width. The last digit is the remainder by ten, the others are those of the
  -- quotient.
  induction width generalizing n with
  | zero => exact (Nat.mod_one n).symm
  | succ width ih =>
    have hlt := Nat.mod_lt n (show 0 < 10 by decide)
    have hdigit : (Nat.digitChar (n % 10)).toNat - 0x30 = n % 10 := by
      have hvalue := Nat.toNat_digitChar_of_lt_ten hlt
      omega
    have hlast : numberOfDigits ((paddedDigits width (n / 10) ++ [Nat.digitChar (n % 10)]).map
        (·.toNat - 0x30)) =
        10 * numberOfDigits ((paddedDigits width (n / 10)).map (·.toNat - 0x30)) + n % 10 := by
      unfold numberOfDigits
      rw [List.map_append, List.foldl_append, List.map_singleton, hdigit]
      rfl
    rw [paddedDigits, hlast, ih, Nat.pow_succ, Nat.mul_comm _ 10, Nat.mod_mul]
    omega

/-- A zero behind a row of digits multiplies their number by ten. -/
theorem numberOfDigits_append_zeros (values : List Nat) (count : Nat) :
    numberOfDigits (values ++ List.replicate count 0) = numberOfDigits values * 10 ^ count := by
  induction count with
  | zero => rw [List.replicate_zero, List.append_nil, Nat.pow_zero, Nat.mul_one]
  | succ count ih =>
    have hlast : numberOfDigits (values ++ List.replicate count 0 ++ [0]) =
        10 * numberOfDigits (values ++ List.replicate count 0) + 0 := by
      unfold numberOfDigits
      rw [List.foldl_append]
      rfl
    rw [List.replicate_succ', ← List.append_assoc, hlast, ih, Nat.pow_succ, Nat.add_zero,
      Nat.mul_comm 10, Nat.mul_assoc]

end QueryGuard.Text
