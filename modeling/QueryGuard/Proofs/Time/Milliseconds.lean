import QueryGuard.Proofs.Number.Exact
import QueryGuard.Time.Duration

/-!
# `QueryGuard.Proofs.Time.Milliseconds`: the rounding that milliseconds bring

Milliseconds are the one amount that is not a whole number of seconds. They are
multiplied by the double nearest to a thousandth, which is 96 parts in 2 to the 62 too
large; the product is rounded, the sum with the whole seconds is rounded, and the
fraction is rounded once more on its way to microseconds. Up to 2 to the 30 seconds all
of this stays below half a microsecond, so that the last rounding, to whole
microseconds, undoes it (`Duration.toMicroseconds?_add_mul_thousandth`).

Everything is counted in one grain, of which a second has 2 to the 62
(`unitsPerOne_eq_grains`). A product that is about a second is then off by some
grains, and up to 2 to the 30 seconds a rounding is off by no more than 2 to the 39.
-/

set_option autoImplicit false

namespace QueryGuard

namespace Double

/-- A fraction of a second is rounded in microseconds by no more than half of the step
below a million seconds. -/
theorem roundUnits_fraction_near {fraction : Nat} (h : fraction < unitsPerOne) :
    2 * roundUnits (fraction * 1000000) 1 ≤ 2 * (fraction * 1000000) + 2 ^ 1041 ∧
      2 * (fraction * 1000000) ≤ 2 * roundUnits (fraction * 1000000) 1 + 2 ^ 1041 := by
  have hscaled : fraction * 1000000 < 2 ^ (1041 + 53) := by
    have hpow : 2 ^ (1041 + 53) = unitsPerOne * 2 ^ 20 := by
      rw [unitsPerOne_eq, ← Nat.pow_add, show 1041 + 53 = 1074 + 20 by decide]
    rw [hpow]
    omega
  exact ⟨two_mul_roundUnits_le 1041 hscaled, two_mul_le_roundUnits 1041 hscaled⟩

/-- A number of units close to a whole number of microseconds is converted to that
number. The room is half a microsecond, less the rounding of the fraction. -/
theorem toMicroseconds?_of_near {units micros : Nat} (off : Nat)
    (hlow : micros * unitsPerOne ≤ units * 1000000 + off)
    (hhigh : units * 1000000 ≤ micros * unitsPerOne + off)
    (hoff : 2 * off + 2 ^ 1041 < unitsPerOne) :
    toMicroseconds? (.finite false units) = some (micros : Int) := by
  have hunits : units / unitsPerOne * unitsPerOne + units % unitsPerOne = units :=
    Nat.div_add_mod' units unitsPerOne
  have hrest : units % unitsPerOne < unitsPerOne := Nat.mod_lt _ unitsPerOne_pos
  obtain ⟨hbelow, habove⟩ := roundUnits_fraction_near hrest
  show some (((units / unitsPerOne * 1000000 +
    roundDiv (roundUnits (units % unitsPerOne * 1000000) 1) unitsPerOne : Nat)) : Int) = _
  generalize roundUnits (units % unitsPerOne * 1000000) 1 = scaled at *
  generalize units / unitsPerOne = whole at *
  -- The whole seconds are no more than all of it, and the rest is the fraction.
  have hwhole : whole * 1000000 < micros + 1 := by
    refine Nat.lt_of_mul_lt_mul_right (a := unitsPerOne) ?_
    rw [Nat.add_mul, Nat.one_mul, Nat.mul_right_comm]
    omega
  obtain ⟨rest, hmicros⟩ := Nat.exists_eq_add_of_le (Nat.le_of_lt_succ hwhole)
  have hproduct : micros * unitsPerOne = whole * unitsPerOne * 1000000 + rest * unitsPerOne := by
    rw [hmicros, Nat.add_mul, Nat.mul_right_comm]
  have hround : roundDiv scaled unitsPerOne = rest :=
    roundDiv_eq_of_near (by omega) (by omega)
  rw [hround, hmicros]

/-- The product of two numbers that are not negative, one of them whole. -/
theorem mul_finite_whole (k units : Nat) :
    mul (.finite false (k * unitsPerOne)) (.finite false units) =
      ofUnits false (roundUnits (k * units) 1) := by
  show ofUnits false (roundUnits (k * unitsPerOne * units) unitsPerOne) = _
  rw [Nat.mul_right_comm, roundUnits_mul_right _ unitsPerOne_pos]

end Double

namespace Duration

open Double

/-- One part in 2 to the 62 of a second, in units. -/
def grain : Nat := 2 ^ 1012

/-- The grain is a positive number of units. -/
theorem grain_pos : 0 < grain := Nat.two_pow_pos _

/-- One is a whole number of grains. -/
theorem unitsPerOne_eq_grains : unitsPerOne = 2 ^ 62 * grain := by
  rw [unitsPerOne_eq, grain, ← Nat.pow_add]

/-- The double nearest to a thousandth. -/
theorem thousandth_eq : thousandth = .finite false (4611686018427388 * grain) := by
  decide +kernel

/-- A number of less than 2 to the 93 grains is rounded by no more than 2 to the 39. -/
theorem roundUnits_near {units : Nat} (h : units < 2 ^ 93 * grain) :
    roundUnits units 1 ≤ units + 2 ^ 39 * grain ∧ units ≤ roundUnits units 1 + 2 ^ 39 * grain := by
  have hlimit : units < 2 ^ (1052 + 53) := by
    refine Nat.lt_of_lt_of_eq h ?_
    rw [grain, ← Nat.pow_add]
  have hhalf : 2 ^ 1052 = 2 * (2 ^ 39 * grain) := by
    rw [grain, ← Nat.pow_add, ← Nat.pow_succ']
  have hbelow := two_mul_roundUnits_le 1052 hlimit
  have habove := two_mul_le_roundUnits 1052 hlimit
  rw [hhalf] at hbelow habove
  omega

/-- What is rounded there is a finite double. -/
theorem ofUnits_of_lt {units : Nat} (h : units < 2 ^ 94 * grain) :
    ofUnits false units = .finite false units := by
  refine if_pos (Nat.lt_of_lt_of_le h ?_)
  rw [grain, ← Nat.pow_add, unitsLimit_eq]
  exact Nat.pow_le_pow_right (by decide) (by decide)

/-- Up to 2 to the 30 seconds, whole seconds and milliseconds add up to the exact
number of microseconds. -/
theorem toMicroseconds?_add_mul_thousandth {n k : Nat} (h : 1000 * n + k ≤ 2 ^ 30 * 1000) :
    toMicroseconds? (Double.add (.finite false (n * unitsPerOne))
        (Double.mul (.finite false (k * unitsPerOne)) thousandth)) =
      some ((n * 1000000 + k * 1000 : Nat) : Int) := by
  have hpos := grain_pos
  -- The amounts appear as products with the grain only.
  have hgrains : 1000 * (n * grain) + k * grain ≤ 2 ^ 30 * 1000 * grain := by
    rw [← Nat.mul_assoc, ← Nat.add_mul]
    exact Nat.mul_le_mul_right _ h
  have hn : n * unitsPerOne = 2 ^ 62 * (n * grain) := by
    rw [unitsPerOne_eq_grains, Nat.mul_left_comm]
  have hk : k * (4611686018427388 * grain) = 4611686018427388 * (k * grain) :=
    Nat.mul_left_comm ..
  have hmicros : (n * 1000000 + k * 1000) * unitsPerOne =
      2 ^ 62 * (n * grain * 1000000 + k * grain * 1000) := by
    rw [unitsPerOne_eq_grains, Nat.mul_left_comm, Nat.add_mul, Nat.mul_right_comm n,
      Nat.mul_right_comm k]
  -- The product, rounded.
  rw [thousandth_eq, mul_finite_whole, hk, hn]
  obtain ⟨hproduct, hproduct'⟩ := roundUnits_near
    (show 4611686018427388 * (k * grain) < 2 ^ 93 * grain by omega)
  generalize roundUnits (4611686018427388 * (k * grain)) 1 = product at *
  rw [ofUnits_of_lt (by omega), add_finite]
  -- The sum, rounded.
  obtain ⟨hsum, hsum'⟩ := roundUnits_near
    (show 2 ^ 62 * (n * grain) + product < 2 ^ 93 * grain by omega)
  generalize roundUnits (2 ^ 62 * (n * grain) + product) 1 = sum at *
  rw [ofUnits_of_lt (by omega)]
  have hroom : 2 ^ 1041 = 2 ^ 29 * grain := by
    rw [grain, ← Nat.pow_add]
  have hone := unitsPerOne_eq_grains
  -- Two roundings, and 96 grains for each millisecond.
  refine toMicroseconds?_of_near ((2 ^ 40 * 1000000 + 2 ^ 30 * 96000000) * grain) ?_ ?_ ?_
  · omega
  · omega
  · omega

end Duration

end QueryGuard
