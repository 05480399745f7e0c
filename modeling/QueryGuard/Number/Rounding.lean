/-!
# `QueryGuard.Number.Rounding`: quotients rounded to the nearest number

The one rounding rule of this library: to the nearest, a tie to the
even neighbour.
-/

set_option autoImplicit false

namespace QueryGuard

/-- The whole number nearest to `num / den`, the even one of two. -/
def roundDiv (num den : Nat) : Nat :=
  let q := num / den
  let twice := 2 * (num % den)
  if twice < den then q else if den < twice then q + 1 else q + q % 2

/-- A rounded quotient lies within half a unit of the exact one. -/
theorem two_mul_roundDiv_le (num den : Nat) (h : 0 < den) :
    2 * (roundDiv num den * den) ≤ 2 * num + den := by
  have hd := Nat.div_add_mod num den
  have hq : (num / den + 1) * den = den * (num / den) + den := by
    rw [Nat.add_mul, Nat.one_mul, Nat.mul_comm]
  have hm : num / den * den = den * (num / den) := Nat.mul_comm _ _
  have hlt := Nat.mod_lt num h
  simp only [roundDiv]
  split
  · rw [hm]; omega
  · split
    · rw [hq]; omega
    · rcases Nat.mod_two_eq_zero_or_one (num / den) with h0 | h1
      · rw [h0, Nat.add_zero, hm]; omega
      · rw [h1, hq]; omega

/-- A rounded quotient lies within half a unit of the exact one. -/
theorem two_mul_le_roundDiv (num den : Nat) (h : 0 < den) :
    2 * num ≤ 2 * (roundDiv num den * den) + den := by
  have hd := Nat.div_add_mod num den
  have hq : (num / den + 1) * den = den * (num / den) + den := by
    rw [Nat.add_mul, Nat.one_mul, Nat.mul_comm]
  have hm : num / den * den = den * (num / den) := Nat.mul_comm _ _
  have hlt := Nat.mod_lt num h
  simp only [roundDiv]
  split
  · rw [hm]; omega
  · split
    · rw [hq]; omega
    · rcases Nat.mod_two_eq_zero_or_one (num / den) with h0 | h1
      · rw [h0, Nat.add_zero, hm]; omega
      · rw [h1, hq]; omega

/-- A whole quotient is its own rounding. -/
theorem roundDiv_mul_self (q den : Nat) (h : 0 < den) : roundDiv (q * den) den = q := by
  simp [roundDiv, Nat.mul_div_cancel q h, h]

end QueryGuard
