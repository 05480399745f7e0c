import Mathlib.Algebra.Order.Ring.Nat
import QueryGuard.Number.Double

/-!
# `QueryGuard.Proofs.Number.Overflow`: whole numbers too large for a double

A whole number is converted to the nearest double, and it is too large when no
finite double is nearest. `Double.ofInt?_eq_none_iff` puts this as a comparison:
the numbers from `Double.overflowBound` on are too large. The bound lies half way
between the largest finite double and the next power of two. The half way point
itself is too large, since a tie goes to the even neighbour (`le_roundDiv_iff`).

The proof follows the rounding by the number of bits. Below the last binade the
rounded number cannot reach the limit, beyond it no rounding brings a number back,
and in between the step from one double to the next is known
(`Double.two_pow_le_roundUnits_iff`).
-/

set_option autoImplicit false

namespace QueryGuard

/-- A rounded quotient reaches an even number from half a unit below it on: the
tie goes up to the even one. -/
theorem le_roundDiv_iff {num den k : Nat} (hden : 0 < den) (hk : k % 2 = 0) :
    k ≤ roundDiv num den ↔ 2 * (k * den) ≤ 2 * num + den := by
  have hdiv : den * (num / den) + num % den = num := Nat.div_add_mod num den
  have hmod := Nat.mod_lt num hden
  rw [Nat.mul_comm] at hdiv
  unfold roundDiv
  simp only
  generalize num / den = q at *
  generalize num % den = rest at *
  -- Only the next number after the whole part depends on the rest.
  rcases Nat.lt_trichotomy k (q + 1) with hlt | rfl | hgt
  · obtain ⟨below, rfl⟩ := Nat.exists_eq_add_of_le (Nat.le_of_lt_succ hlt)
    rw [Nat.add_mul] at hdiv
    refine iff_of_true ?_ (by omega)
    split
    · omega
    · split <;> omega
  · rw [Nat.add_mul, Nat.one_mul]
    split
    · omega
    · split <;> omega
  · obtain ⟨above, rfl⟩ := Nat.exists_eq_add_of_le (Nat.succ_le_of_lt hgt)
    have hprod : ((q + 1).succ + above) * den = q * den + den + den + above * den := by
      rw [Nat.add_mul, Nat.succ_mul, Nat.succ_mul]
    refine iff_of_false ?_ (by omega)
    split
    · omega
    · split <;> omega

namespace Double

/-- The least whole number that is too large for a double. -/
def overflowBound : Nat := 2 ^ 1024 - 2 ^ 970

/-- The units of one, as a power of two. -/
theorem unitsPerOne_eq : unitsPerOne = 2 ^ 1074 := by rw [unitsPerOne, Nat.pow_eq]

/-- The units of the first number that is too large, as a power of two. -/
theorem unitsLimit_eq : unitsLimit = 2 ^ (2044 + 54) := by rw [unitsLimit, Nat.pow_eq]

/-- Whole units are rounded to a multiple of the step that their bits leave. -/
theorem roundUnits_one (units : Nat) :
    roundUnits units 1 = roundDiv units (2 ^ (units.log2 - 52)) * 2 ^ (units.log2 - 52) := by
  unfold roundUnits spareBits
  simp only [Nat.div_one, Nat.one_mul]
  rfl

/-- Rounding does not take a number below a power of two that it has reached. -/
theorem le_roundUnits {units : Nat} (bits : Nat) (h : 2 ^ (bits + 52) ≤ units) :
    2 ^ (bits + 52) ≤ roundUnits units 1 := by
  have hne : units ≠ 0 := Nat.ne_of_gt (Nat.lt_of_lt_of_le (Nat.two_pow_pos _) h)
  have hlog : bits + 52 ≤ units.log2 := (Nat.le_log2 hne).2 h
  obtain ⟨more, hmore⟩ := Nat.exists_eq_add_of_le hlog
  -- The bits that rounding drops, which are the exponent of the result.
  have hspare : units.log2 - 52 = bits + more := by omega
  have hself : 2 ^ 52 * 2 ^ (bits + more) ≤ units := by
    rw [← Nat.pow_add, ← show units.log2 = 52 + (bits + more) by omega]
    exact Nat.log2_self_le hne
  have hround : 2 ^ 52 ≤ roundDiv units (2 ^ (bits + more)) :=
    (le_roundDiv_iff (Nat.two_pow_pos _) (by decide)).2 (by omega)
  rw [roundUnits_one, hspare]
  calc 2 ^ (bits + 52) = 2 ^ 52 * 2 ^ bits := by rw [Nat.pow_add, Nat.mul_comm]
    _ ≤ 2 ^ 52 * 2 ^ (bits + more) :=
      Nat.mul_le_mul_left _ (Nat.pow_le_pow_right (by decide) (Nat.le_add_right _ _))
    _ ≤ roundDiv units (2 ^ (bits + more)) * 2 ^ (bits + more) := Nat.mul_le_mul_right _ hround

/-- The step between doubles is no greater than the greatest below a power of two. -/
theorem roundingStep_le {units : Nat} (bits : Nat) (h : units < 2 ^ (bits + 53)) :
    2 ^ (units.log2 - 52) ≤ 2 ^ bits := by
  refine Nat.pow_le_pow_right (by decide) ?_
  by_cases hne : units = 0
  · rw [hne]
    exact Nat.zero_le _
  · have hlog := (Nat.log2_lt hne).2 h
    omega

/-- Rounding adds no more than half of the greatest step there is for a number. -/
theorem two_mul_roundUnits_le {units : Nat} (bits : Nat) (h : units < 2 ^ (bits + 53)) :
    2 * roundUnits units 1 ≤ 2 * units + 2 ^ bits := by
  have hstep := roundingStep_le bits h
  have hround := two_mul_roundDiv_le units (2 ^ (units.log2 - 52)) (Nat.two_pow_pos _)
  rw [roundUnits_one]
  omega

/-- A power of two is reached from half of the step before it on. -/
theorem two_pow_le_roundUnits_iff {units : Nat} (bits : Nat) :
    2 ^ (bits + 54) ≤ roundUnits units 1 ↔ 2 ^ (bits + 54) - 2 ^ bits ≤ units := by
  -- The powers are multiples of the step, and the step is twice its half.
  have hlimit : 2 ^ (bits + 54) = 2 ^ 53 * 2 ^ (bits + 1) := by
    rw [← Nat.pow_add, show bits + 54 = 53 + (bits + 1) by omega]
  have hbinade : 2 ^ (bits + 53) = 2 ^ 52 * 2 ^ (bits + 1) := by
    rw [← Nat.pow_add, show bits + 53 = 52 + (bits + 1) by omega]
  have hstep : 2 ^ (bits + 1) = 2 * 2 ^ bits := by rw [Nat.pow_succ, Nat.mul_comm]
  have hpos : 0 < 2 ^ bits := Nat.two_pow_pos _
  by_cases hhigh : 2 ^ (bits + 54) ≤ units
  · have hreached : 2 ^ (bits + 54) ≤ roundUnits units 1 := le_roundUnits (bits + 2) hhigh
    exact iff_of_true hreached (Nat.le_trans (Nat.sub_le _ _) hhigh)
  · by_cases hlow : units < 2 ^ (bits + 53)
    · have hround : 2 * roundUnits units 1 ≤ 2 * units + 2 ^ bits :=
        two_mul_roundUnits_le bits hlow
      rw [hlimit, hstep]
      rw [hbinade, hstep] at hlow
      generalize 2 ^ bits = half at *
      exact iff_of_false (by omega) (by omega)
    · have hne : units ≠ 0 := by
        have hle : 2 ^ (bits + 53) ≤ units := Nat.le_of_not_lt hlow
        exact Nat.ne_of_gt (Nat.lt_of_lt_of_le (Nat.two_pow_pos _) hle)
      have hlog : units.log2 = bits + 53 :=
        (Nat.log2_eq_iff hne).2 ⟨Nat.le_of_not_lt hlow, Nat.lt_of_not_le hhigh⟩
      rw [roundUnits_one, hlog, show bits + 53 - 52 = bits + 1 by omega, hlimit,
        Nat.mul_le_mul_right_iff (Nat.two_pow_pos _),
        le_roundDiv_iff (Nat.two_pow_pos _) (by decide), hstep]
      generalize 2 ^ bits = half at *
      omega

/-- Rounded units make no finite double from the limit on. -/
theorem finite?_ofUnits_eq_none_iff {negative : Bool} {units : Nat} :
    (ofUnits negative units).finite? = none ↔ unitsLimit ≤ units := by
  unfold ofUnits
  by_cases hlt : units < unitsLimit
  · rw [if_pos hlt]
    exact iff_of_false nofun (Nat.not_le_of_lt hlt)
  · rw [if_neg hlt]
    exact iff_of_true rfl (Nat.le_of_not_lt hlt)

/-- A whole number is too large for a double from the bound on. -/
theorem ofInt?_eq_none_iff {n : Int} : ofInt? n = none ↔ overflowBound ≤ n.natAbs := by
  have hunits : ofInt? n =
      (ofUnits (n < 0) (roundUnits (n.natAbs * unitsPerOne) 1)).finite? := rfl
  have hbound : 2 ^ (2044 + 54) - 2 ^ 2044 = overflowBound * 2 ^ 1074 := by
    rw [overflowBound, Nat.sub_mul, ← Nat.pow_add, ← Nat.pow_add]
  rw [hunits, finite?_ofUnits_eq_none_iff, unitsPerOne_eq, unitsLimit_eq,
    two_pow_le_roundUnits_iff, hbound, Nat.mul_le_mul_right_iff (Nat.two_pow_pos _)]

end Double

end QueryGuard
