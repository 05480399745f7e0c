import QueryGuard.Proofs.Number.Overflow

/-!
# `QueryGuard.Proofs.Number.Exact`: doubles that are exact, and how far others are off

Two facts about rounding are used for lengths of time. The first is that a whole
number of no more than 53 bits is a double, so that such numbers are converted and
added without any loss. Beyond that a sum may be off, but it does not come back below
the first number that is (`Double.Counts`): it is still known to be too large.

The second is for fractions. A rounded number of units is off by no more than half of
the greatest step there is below its power of two (`Double.two_mul_le_roundUnits` and
`Double.two_mul_roundUnits_le`), and a quotient that is off by less than a half still
rounds to the right number (`roundDiv_eq_of_near`).

Rounding once is enough (`Double.roundUnits_roundUnits`). So a sum of numbers from zero on
stays as it is when zero is added to it (`Double.add_zero_of_sum`).
-/

set_option autoImplicit false

namespace QueryGuard

/-- A quotient that lies within less than half of a whole number is rounded to it. -/
theorem roundDiv_eq_of_near {num den m : Nat} (hlow : 2 * (m * den) < 2 * num + den)
    (hhigh : 2 * num < 2 * (m * den) + den) : roundDiv num den = m := by
  have hden : 0 < den := by
    rcases Nat.eq_zero_or_pos den with rfl | hpos
    · omega
    · exact hpos
  have hbelow := two_mul_roundDiv_le num den hden
  have habove := two_mul_le_roundDiv num den hden
  -- Rounding moves a quotient by half a unit at most, on either side.
  have hupper : roundDiv num den < m + 1 := by
    refine Nat.lt_of_mul_lt_mul_right (a := den) ?_
    rw [Nat.add_mul, Nat.one_mul]
    omega
  have hlower : m < roundDiv num den + 1 := by
    refine Nat.lt_of_mul_lt_mul_right (a := den) ?_
    rw [Nat.add_mul, Nat.one_mul]
    omega
  omega

/-- A common factor does not matter for rounding. -/
theorem roundDiv_mul_right (num den : Nat) {k : Nat} (hk : 0 < k) :
    roundDiv (num * k) (den * k) = roundDiv num den := by
  have hbelow : 2 * (num * k % (den * k)) < den * k ↔ 2 * (num % den) < den := by
    rw [Nat.mul_mod_mul_right, ← Nat.mul_assoc]
    exact Nat.mul_lt_mul_right hk
  have habove : den * k < 2 * (num * k % (den * k)) ↔ den < 2 * (num % den) := by
    rw [Nat.mul_mod_mul_right, ← Nat.mul_assoc]
    exact Nat.mul_lt_mul_right hk
  simp only [roundDiv, hbelow, habove, Nat.mul_div_mul_right num den hk]

namespace Double

/-- One is not nothing. -/
theorem unitsPerOne_pos : 0 < unitsPerOne := by
  rw [unitsPerOne_eq]
  exact Nat.two_pow_pos _

/-! ### Rounding -/

/-- A product with a common factor in both parts is rounded as without it. -/
theorem roundUnits_mul_right (units : Nat) {den : Nat} (hden : 0 < den) :
    roundUnits (units * den) den = roundUnits units 1 := by
  unfold roundUnits
  simp only [Nat.mul_div_cancel units hden, Nat.div_one, Nat.mul_comm den,
    roundDiv_mul_right _ _ hden, Nat.one_mul]

/-- A number of no more than 53 bits is not rounded, however many zeros follow it. -/
theorem roundUnits_mul_two_pow {n bits : Nat} (h : n < 2 ^ 53) :
    roundUnits (n * 2 ^ bits) 1 = n * 2 ^ bits := by
  have hspare : (n * 2 ^ bits).log2 - 52 ≤ bits := by
    by_cases hne : n * 2 ^ bits = 0
    · rw [hne]
      exact Nat.zero_le _
    · have hlt : n * 2 ^ bits < 2 ^ (53 + bits) := by
        rw [Nat.pow_add]
        exact Nat.mul_lt_mul_of_pos_right h (Nat.two_pow_pos _)
      have hlog := (Nat.log2_lt hne).2 hlt
      omega
  -- The step between doubles divides the number, so that nothing is left to round.
  obtain ⟨q, hq⟩ : 2 ^ ((n * 2 ^ bits).log2 - 52) ∣ n * 2 ^ bits :=
    Nat.dvd_mul_left_of_dvd (Nat.pow_dvd_pow 2 hspare) n
  rw [roundUnits_one]
  generalize hstep : 2 ^ ((n * 2 ^ bits).log2 - 52) = step at *
  have hpos : 0 < step := hstep ▸ Nat.two_pow_pos _
  rw [hq, Nat.mul_comm step q, roundDiv_mul_self q step hpos]

/-- Rounding takes off no more than half of the greatest step there is for a
number. -/
theorem two_mul_le_roundUnits {units : Nat} (bits : Nat) (h : units < 2 ^ (bits + 53)) :
    2 * units ≤ 2 * roundUnits units 1 + 2 ^ bits := by
  have hstep := roundingStep_le bits h
  have hround := two_mul_le_roundDiv units (2 ^ (units.log2 - 52)) (Nat.two_pow_pos _)
  rw [roundUnits_one]
  omega

/-- Rounded units have no more than 53 bits, the zeros behind them aside. -/
theorem exists_roundUnits_eq (units : Nat) :
    ∃ n bits, n < 2 ^ 53 ∧ roundUnits units 1 = n * 2 ^ bits := by
  rw [roundUnits_one]
  generalize hbits : units.log2 - 52 = bits
  have hround : roundDiv units (2 ^ bits) < 2 ^ 53 + 1 := by
    have hlt : units < 2 ^ 53 * 2 ^ bits := by
      rw [← Nat.pow_add]
      by_cases hne : units = 0
      · rw [hne]
        exact Nat.two_pow_pos _
      · exact (Nat.log2_lt hne).1 (by omega)
    have hbelow := two_mul_roundDiv_le units (2 ^ bits) (Nat.two_pow_pos _)
    refine Nat.lt_of_mul_lt_mul_right (a := 2 ^ bits) ?_
    rw [Nat.add_mul, Nat.one_mul]
    omega
  -- A number that is rounded up to 54 bits ends with a zero more.
  rcases Nat.lt_or_eq_of_le (Nat.le_of_lt_succ hround) with hlt | heq
  · exact ⟨_, bits, hlt, rfl⟩
  · refine ⟨2 ^ 52, bits + 1, by decide, ?_⟩
    rw [heq, ← Nat.pow_add, ← Nat.pow_add, show 53 + bits = 52 + (bits + 1) by omega]

/-- What has been rounded is not rounded any further. -/
theorem roundUnits_roundUnits (units : Nat) :
    roundUnits (roundUnits units 1) 1 = roundUnits units 1 := by
  obtain ⟨n, bits, hn, heq⟩ := exists_roundUnits_eq units
  rw [heq, roundUnits_mul_two_pow hn]

/-! ### Whole numbers -/

/-- A double stands for a whole number: exactly, if the number has no more than 53
bits. Otherwise it is too large to have, and may be infinite. -/
inductive Counts (n : Nat) : Double → Prop
  | exact (small : n < 2 ^ 53) : Counts n (.finite false (n * unitsPerOne))
  | large {units : Nat} (large : 2 ^ 53 ≤ n) (beyond : 2 ^ 53 * unitsPerOne ≤ units) :
      Counts n (.finite false units)
  | infinite (large : 2 ^ 53 ≤ n) : Counts n (.infinite false)

/-- A number of no more than 53 bits has only the one double. -/
theorem Counts.eq_exact {n : Nat} {x : Double} (h : Counts n x) (hsmall : n < 2 ^ 53) :
    x = .finite false (n * unitsPerOne) := by
  cases h with
  | exact _ => rfl
  | large hlarge _ => omega
  | infinite hlarge => omega

/-- Zero counts nothing. -/
theorem counts_zero : Counts 0 zero := by
  have hexact := Counts.exact (show 0 < 2 ^ 53 by decide)
  rw [Nat.zero_mul] at hexact
  exact hexact

/-- A number is counted by the rounding of what counts it, or of anything beyond 53
bits if it is. -/
theorem counts_ofUnits {n units : Nat} (hsmall : n < 2 ^ 53 → units = n * unitsPerOne)
    (hlarge : 2 ^ 53 ≤ n → 2 ^ 53 * unitsPerOne ≤ units) :
    Counts n (ofUnits false (roundUnits units 1)) := by
  -- Below the limit the number is held exactly, from there on it only has to stay beyond
  -- it.
  rcases Nat.lt_or_ge n (2 ^ 53) with hlt | hge
  · have hround : roundUnits units 1 = n * unitsPerOne := by
      rw [hsmall hlt, unitsPerOne_eq]
      exact roundUnits_mul_two_pow hlt
    have hlimit : n * unitsPerOne < unitsLimit := by
      rw [unitsPerOne_eq, unitsLimit_eq]
      calc n * 2 ^ 1074 < 2 ^ 53 * 2 ^ 1074 := Nat.mul_lt_mul_of_pos_right hlt (Nat.two_pow_pos _)
        _ = 2 ^ 1127 := by rw [← Nat.pow_add]
        _ ≤ 2 ^ (2044 + 54) := Nat.pow_le_pow_right (by decide) (by decide)
    rw [hround, ofUnits, if_pos hlimit]
    exact .exact hlt
  · have hbeyond : 2 ^ 53 * unitsPerOne ≤ roundUnits units 1 := by
      have hpow : 2 ^ 53 * unitsPerOne = 2 ^ (1075 + 52) := by
        rw [unitsPerOne_eq, ← Nat.pow_add]
      rw [hpow]
      refine le_roundUnits 1075 ?_
      rw [← hpow]
      exact hlarge hge
    unfold ofUnits
    split
    · exact .large hge hbeyond
    · exact .infinite hge

/-- A whole number that is converted is counted. -/
theorem counts_of_ofInt? {n : Nat} {x : Double} (h : ofInt? n = some x) : Counts n x := by
  have hunits : ofInt? n = (ofUnits false (roundUnits (n * unitsPerOne) 1)).finite? := by
    have hsign : decide ((n : Int) < 0) = false := decide_eq_false (by omega)
    rw [ofInt?, ofInt, ofRatio, hsign, Int.natAbs_natCast]
  have hcounts : Counts n (ofUnits false (roundUnits (n * unitsPerOne) 1)) :=
    counts_ofUnits (fun _ => rfl) (Nat.mul_le_mul_right _)
  rw [hunits] at h
  -- Only the class of the double matters from here on.
  generalize ofUnits false (roundUnits (n * unitsPerOne) 1) = y at *
  cases y with
  | finite negative units =>
    cases h
    exact hcounts
  | infinite negative => cases h
  | nan => cases h

/-- Two whole numbers that are not negative are added as units. -/
theorem add_finite (a b : Nat) :
    add (.finite false a) (.finite false b) = ofUnits false (roundUnits (a + b) 1) := by
  show ofSigned false ((a : Int) + b) 1 = _
  have hcast : (a : Int) + b = (a + b : Nat) := rfl
  rw [hcast]
  unfold ofSigned
  split
  · next hzero =>
    have hunits : a + b = 0 := by omega
    rw [hunits]
    decide +kernel
  · have hsign : decide (((a + b : Nat) : Int) < 0) = false := decide_eq_false (by omega)
    rw [hsign, Int.natAbs_natCast]

/-- The sum of two doubles stands for the sum of what they stand for. -/
theorem Counts.add {m n : Nat} {x y : Double} (hx : Counts m x) (hy : Counts n y) :
    Counts (m + n) (x.add y) := by
  have hsum {a b : Nat} (hsmall : m + n < 2 ^ 53 → a + b = (m + n) * unitsPerOne)
      (hlarge : 2 ^ 53 ≤ m + n → 2 ^ 53 * unitsPerOne ≤ a + b) :
      Counts (m + n) (Double.add (.finite false a) (.finite false b)) := by
    rw [add_finite]
    exact counts_ofUnits hsmall hlarge
  -- Only two exact numbers have an exact sum; a large one stays large, whatever is added.
  cases hx with
  | exact hm =>
    cases hy with
    | exact hn =>
      have hunits : m * unitsPerOne + n * unitsPerOne = (m + n) * unitsPerOne :=
        (Nat.add_mul ..).symm
      refine hsum (fun _ => hunits) ?_
      rw [hunits]
      exact Nat.mul_le_mul_right _
    | large hn beyond => exact hsum (by omega) (by omega)
    | infinite hn => exact .infinite (by omega)
  | large hm beyond =>
    cases hy with
    | exact hn => exact hsum (by omega) (by omega)
    | large hn beyond => exact hsum (by omega) (by omega)
    | infinite hn => exact .infinite (by omega)
  | infinite hm =>
    cases hy with
    | exact hn => exact .infinite (by omega)
    | large hn beyond => exact .infinite (by omega)
    | infinite hn => exact .infinite (by omega)

/-! ### Sums from zero on -/

/-- A double from zero on, infinity included. -/
inductive FromZero : Double → Prop
  | finite (units : Nat) : FromZero (.finite false units)
  | infinite : FromZero (.infinite false)

/-- A double of units that is not negative is from zero on. -/
theorem fromZero_ofUnits (units : Nat) : FromZero (ofUnits false units) := by
  unfold ofUnits
  split
  · exact .finite _
  · exact .infinite

/-- What counts something is from zero on. -/
theorem Counts.fromZero {n : Nat} {x : Double} (h : Counts n x) : FromZero x := by
  cases h with
  | exact _ => exact .finite _
  | large _ _ => exact .finite _
  | infinite _ => exact .infinite

/-- A sum of doubles from zero on is one. -/
theorem FromZero.add {x y : Double} (hx : FromZero x) (hy : FromZero y) : FromZero (x.add y) := by
  cases hx with
  | infinite => cases hy <;> exact .infinite
  | finite a =>
    cases hy with
    | infinite => exact .infinite
    | finite b =>
      rw [add_finite]
      exact fromZero_ofUnits _

/-- Zero added to a sum does not change it, since the sum has been rounded. -/
theorem add_zero_of_sum {x y : Double} (hx : FromZero x) (hy : FromZero y) :
    (x.add y).add zero = x.add y := by
  -- A sum is rounded already, and rounding again changes nothing. An infinity stays one.
  cases hx with
  | infinite => cases hy <;> rfl
  | finite a =>
    cases hy with
    | infinite => rfl
    | finite b =>
      rw [add_finite]
      unfold ofUnits
      split
      · next hlt =>
        rw [zero, add_finite, Nat.add_zero, roundUnits_roundUnits, ofUnits, if_pos hlt]
      · rfl

/-! ### Microseconds -/

/-- Whole seconds are converted to microseconds exactly. -/
theorem toMicroseconds?_whole (n : Nat) :
    toMicroseconds? (.finite false (n * unitsPerOne)) = some ((n * 1000000 : Nat) : Int) := by
  have hround : roundDiv (roundUnits (n * unitsPerOne % unitsPerOne * 1000000) 1) unitsPerOne =
      0 := by
    rw [Nat.mul_mod_left]
    decide +kernel
  have hdiv : n * unitsPerOne / unitsPerOne = n := Nat.mul_div_cancel n unitsPerOne_pos
  show some (((n * unitsPerOne / unitsPerOne) * 1000000 +
    roundDiv (roundUnits (n * unitsPerOne % unitsPerOne * 1000000) 1) unitsPerOne : Nat) : Int) = _
  rw [hdiv, hround, Nat.add_zero]

/-- A number of seconds has at least the microseconds of its whole ones. -/
theorem exists_toMicroseconds? {n units : Nat} (h : n * unitsPerOne ≤ units) :
    ∃ micros : Nat, toMicroseconds? (.finite false units) = some (micros : Int) ∧
      n * 1000000 ≤ micros := by
  refine ⟨_, rfl, ?_⟩
  have hwhole : n ≤ units / unitsPerOne := (Nat.le_div_iff_mul_le unitsPerOne_pos).2 h
  exact Nat.le_trans (Nat.mul_le_mul_right _ hwhole) (Nat.le_add_right _ _)

end Double

end QueryGuard
