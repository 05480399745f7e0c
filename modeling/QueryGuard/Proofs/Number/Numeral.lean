import QueryGuard.Number.Numeral
import QueryGuard.Proofs.Text.DecimalDigit

/-!
# `QueryGuard.Proofs.Number.Numeral`: a whole number that was written is read back

A user may write a whole number with padding around it, with underscores between the
digits and in the digits of any script. The numeral of a number has none of these: it is
its ASCII digits, behind a minus if it is less than zero. `Numeral.readInt_toString` says
that it is read as the number, unless it has too many digits to be read at all.
-/

set_option autoImplicit false

namespace QueryGuard.Numeral

variable {cs : List Char} {values : List Nat}

/-- Nothing is taken off where there is no padding. -/
theorem dropWhile_isPadding_eq_self (h : ∀ c ∈ cs, isPadding c = false) :
    cs.dropWhile isPadding = cs := by
  cases cs with
  | nil => rfl
  | cons c rest => rw [List.dropWhile_cons, h c List.mem_cons_self]; rfl

/-- A row of characters without padding stays as it is. -/
theorem unpad_eq_self (h : ∀ c ∈ cs, isPadding c = false) : unpad cs = cs := by
  have hback : ∀ c ∈ cs.reverse, isPadding c = false := fun c hc => h c (List.mem_reverse.1 hc)
  unfold unpad
  rw [dropWhile_isPadding_eq_self h, dropWhile_isPadding_eq_self hback, List.reverse_reverse]

/-- A digit is no padding. -/
theorem isPadding_of_isAsciiDigit {c : Char} (h : Text.isAsciiDigit c = true) :
    isPadding c = false := by
  unfold isPadding
  rw [Text.isBlankChar_of_digitValue? (Text.digitValue?_of_isAsciiDigit h), Bool.false_and]

/-- Digits without underscores between them are read one by one. -/
theorem groupedDigits?_of_digits (h : Text.Digits cs values) (hcs : cs ≠ []) :
    groupedDigits? cs = some values := by
  induction h with
  | nil => exact absurd rfl hcs
  | @cons c d rest others hc hrest ih =>
    cases hrest with
    | nil =>
      show (Text.digitValue? c).map ([·]) = some [d]
      rw [hc]
      rfl
    | @cons next e rest others hnext hrest =>
      -- The next character is a digit, so it is no underscore.
      have hunderscore : next ≠ '_' := by
        rintro rfl
        cases hnext
      rw [groupedDigits?]
      · rw [hc, ih (List.cons_ne_nil _ _)]
        rfl
      · exact List.cons_ne_nil _ _
      · exact fun _ heq => hunderscore (List.cons.inj heq).1

/-- The digits of a number write it, unless there are too many of them. -/
theorem ofDigits_toDigits {n : Nat} (h : (Nat.toDigits 10 n).length ≤ maxDigits) :
    ofDigits ((Nat.toDigits 10 n).map (·.toNat - 0x30)) = .ok n := by
  unfold ofDigits
  rw [List.length_map, if_neg (by omega), Text.numberOfDigits_toDigits]

/-- The sign in front of a numeral, and the number that its digits write. -/
theorem readInt_of_sign {s : String} {negative : Bool} {n : Nat}
    (hpadding : ∀ c ∈ s.toList, isPadding c = false)
    (hsign : splitSign s.toList = (negative, Nat.toDigits 10 n))
    (hn : (Nat.toDigits 10 n).length ≤ maxDigits) :
    readInt s = .ok (if negative then -(n : Int) else n) := by
  have hdigits := groupedDigits?_of_digits
    (Text.digits_of_ascii fun _ => Text.isAsciiDigit_of_mem_toDigits (n := n)) Nat.toDigits_ne_nil
  unfold readInt
  rw [unpad_eq_self hpadding, hsign]
  simp only [hdigits, ofDigits_toDigits hn]
  rfl

/-- A whole number is read back from its numeral, unless that is too long. -/
theorem readInt_toString {n : Int} (hn : (Nat.toDigits 10 n.natAbs).length ≤ maxDigits) :
    readInt (toString n) = .ok n := by
  have hdigit {m : Nat} : ∀ c ∈ Nat.toDigits 10 m, isPadding c = false :=
    fun _ hc => isPadding_of_isAsciiDigit (Text.isAsciiDigit_of_mem_toDigits hc)
  cases n with
  | ofNat m =>
    obtain ⟨c, rest, hcons⟩ : ∃ c rest, Nat.toDigits 10 m = c :: rest :=
      List.exists_cons_of_ne_nil Nat.toDigits_ne_nil
    have hc : Text.isAsciiDigit c = true :=
      Text.isAsciiDigit_of_mem_toDigits (hcons ▸ List.mem_cons_self)
    -- The first digit is neither a minus nor a plus.
    have hsign : splitSign (toString (Int.ofNat m)).toList = (false, Nat.toDigits 10 m) := by
      rw [Text.toList_toString_ofNat, hcons, splitSign]
      · rintro _ ⟨rfl, -⟩
        cases hc
      · rintro _ ⟨rfl, -⟩
        cases hc
    exact readInt_of_sign (Text.toList_toString_ofNat m ▸ hdigit) hsign hn
  | negSucc m =>
    have hpadding : ∀ c ∈ (toString (Int.negSucc m)).toList, isPadding c = false := by
      rw [Text.toList_toString_negSucc]
      exact List.forall_mem_cons.2 ⟨by decide, hdigit⟩
    have hsign : splitSign (toString (Int.negSucc m)).toList = (true, Nat.toDigits 10 (m + 1)) := by
      rw [Text.toList_toString_negSucc]
      rfl
    exact readInt_of_sign hpadding hsign hn

end QueryGuard.Numeral
