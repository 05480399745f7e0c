import QueryGuard.Time.Calendar

/-!
# `QueryGuard.Proofs.Time.Calendar`: every day has its date

Days are counted in one go, dates in years, months and days of the month. The date of a
day is found by cutting off cycles of four hundred, a hundred and four years, then
single years, and then months. It is a date that the calendar has, and it counts that
day (`Date.isValid_ofDays`, `Date.toDays_ofDays`).

The years carry the proof. Only the last of the four hundreds in a cycle is a day
longer than its neighbours, and so is the last year of four, which is why the quotients
are cut off at three. `exists_cycles` writes a day in cycles, `daysBeforeYear_cycles`
counts the days of the cycles, and `daysInYear_cycles` says which year is the long one.
-/

set_option autoImplicit false

namespace QueryGuard.Calendar

/-! ### Years -/

/-- The days of a year. -/
def daysInYear (year : Nat) : Nat := if isLeap year then 366 else 365

/-- The Gregorian rule of leap years. -/
theorem isLeap_iff {year : Nat} :
    isLeap year = true ↔ year % 4 = 0 ∧ (year % 100 ≠ 0 ∨ year % 400 = 0) := by
  unfold isLeap
  simp only [Bool.and_eq_true, Bool.or_eq_true, beq_iff_eq, bne_iff_ne]

/-- A year, written as the cycles that have passed before it and one more year. -/
def cycleYear (n400 n100 n4 n1 : Nat) : Nat := 400 * n400 + 100 * n100 + 4 * n4 + n1 + 1

section
variable {n400 n100 n4 n1 : Nat}

/-- The days before a year are those of the cycles before it. -/
theorem daysBeforeYear_cycles (h100 : n100 ≤ 3) (h4 : n4 ≤ 24) (h1 : n1 ≤ 3) :
    daysBeforeYear (cycleYear n400 n100 n4 n1) =
      146097 * n400 + 36524 * n100 + 1461 * n4 + 365 * n1 := by
  have hpred : cycleYear n400 n100 n4 n1 - 1 = 400 * n400 + 100 * n100 + 4 * n4 + n1 :=
    Nat.add_sub_cancel _ 1
  have hfours : (400 * n400 + 100 * n100 + 4 * n4 + n1) / 4 = 100 * n400 + 25 * n100 + n4 := by
    omega
  have hhundreds : (400 * n400 + 100 * n100 + 4 * n4 + n1) / 100 = 4 * n400 + n100 := by omega
  have hcycles : (400 * n400 + 100 * n100 + 4 * n4 + n1) / 400 = n400 := by omega
  simp only [daysBeforeYear, hpred, hfours, hhundreds, hcycles]
  omega

/-- The last year of four is a leap year, unless it ends a hundred years that do not
end four hundred. -/
theorem daysInYear_cycles (h100 : n100 ≤ 3) (h4 : n4 ≤ 24) (h1 : n1 ≤ 3) :
    daysInYear (cycleYear n400 n100 n4 n1) =
      if n1 = 3 ∧ (n4 < 24 ∨ n100 = 3) then 366 else 365 := by
  have hleap : isLeap (cycleYear n400 n100 n4 n1) = true ↔ n1 = 3 ∧ (n4 < 24 ∨ n100 = 3) := by
    rw [isLeap_iff, cycleYear]
    omega
  unfold daysInYear
  simp only [hleap]

end

/-- How often a length goes into a number, three times at most, and what is left. -/
theorem exists_min_div_three (days : Nat) {length : Nat} (h : 0 < length) :
    ∃ n rest, min (days / length) 3 = n ∧ n ≤ 3 ∧ days = n * length + rest ∧
      (n < 3 → rest < length) := by
  have hdiv := Nat.div_add_mod' days length
  have hmod := Nat.mod_lt days h
  rcases Nat.lt_or_ge (days / length) 3 with hlt | hge
  · exact ⟨days / length, days % length, Nat.min_eq_left (Nat.le_of_lt hlt), Nat.le_of_lt hlt,
      hdiv.symm, fun _ => hmod⟩
  · have hthree : 3 * length ≤ days := Nat.le_trans (Nat.mul_le_mul_right _ hge) (by omega)
    obtain ⟨rest, hrest⟩ := Nat.exists_eq_add_of_le hthree
    exact ⟨3, rest, Nat.min_eq_right hge, Nat.le_refl _, hrest, fun hlt => absurd hlt (by omega)⟩

/-- Every day lies in the year that is found for it, which is written in cycles. -/
theorem exists_cycles (days : Nat) :
    ∃ n400 n100 n4 n1 rest, yearOfDays days = cycleYear n400 n100 n4 n1 ∧
      n100 ≤ 3 ∧ n4 ≤ 24 ∧ n1 ≤ 3 ∧
      days = 146097 * n400 + 36524 * n100 + 1461 * n4 + 365 * n1 + rest ∧
      rest < if n1 = 3 ∧ (n4 < 24 ∨ n100 = 3) then 366 else 365 := by
  have hcycle := Nat.div_add_mod days 146097
  have hcycle' := Nat.mod_lt days (show 0 < 146097 by decide)
  obtain ⟨n100, r100, hn100, h100, hr100, hshort100⟩ :=
    exists_min_div_three (days % 146097) (show 0 < 36524 by decide)
  have hfour := Nat.div_add_mod r100 1461
  have hfour' := Nat.mod_lt r100 (show 0 < 1461 by decide)
  obtain ⟨n1, rest, hn1, h1, hr1, hshort1⟩ :=
    exists_min_div_three (r100 % 1461) (show 0 < 365 by decide)
  have hyear : yearOfDays days = cycleYear (days / 146097) n100 (r100 / 1461) n1 := by
    have hleft : days % 146097 - n100 * 36524 = r100 := by omega
    simp only [yearOfDays, hn100, hleft, hn1]
    rfl
  -- Where a quotient was cut off at three, the rest runs on to the end of the cycle.
  refine ⟨days / 146097, n100, r100 / 1461, n1, rest, hyear, h100, by omega, h1, by omega, ?_⟩
  split <;> omega

/-- A day is no earlier than its year, and comes before the year is over. -/
theorem exists_daysBeforeYear_add (days : Nat) :
    ∃ rest, days = daysBeforeYear (yearOfDays days) + rest ∧
      rest < daysInYear (yearOfDays days) := by
  obtain ⟨n400, n100, n4, n1, rest, hyear, h100, h4, h1, hdays, hrest⟩ := exists_cycles days
  refine ⟨rest, ?_, ?_⟩
  · rw [hyear, daysBeforeYear_cycles h100 h4 h1]
    exact hdays
  · rw [hyear, daysInYear_cycles h100 h4 h1]
    exact hrest

/-- The calendar begins with year one. -/
theorem yearOfDays_pos (days : Nat) : 1 ≤ yearOfDays days := Nat.le_add_left _ _

/-- The days of the calendar lie in its years. -/
theorem yearOfDays_le {days : Nat} (h : days < daysBeforeYear (maxYear + 1)) :
    yearOfDays days ≤ maxYear := by
  obtain ⟨rest, hdays, -⟩ := exists_daysBeforeYear_add days
  have hlater : maxYear < yearOfDays days →
      daysBeforeYear (maxYear + 1) ≤ daysBeforeYear (yearOfDays days) := by
    simp only [daysBeforeYear, maxYear]
    omega
  omega

/-! ### Months -/

/-- The days before a month grow by the month before it. -/
theorem daysBeforeMonth_succ (year : Nat) {month : Nat} (h : 1 ≤ month) :
    daysBeforeMonth year (month + 1) = daysBeforeMonth year month + daysInMonth year month := by
  cases month with
  | zero => omega
  | succ month => rfl

/-- Cutting off months keeps count of the days, and stops at a month that is not over
yet, or where it has to. -/
theorem monthFrom_spec (year fuel : Nat) {month days : Nat} (h : 1 ≤ month) :
    ∃ m rest, monthFrom year fuel month days = (m, rest) ∧ month ≤ m ∧ m ≤ month + fuel ∧
      daysBeforeMonth year m + rest = daysBeforeMonth year month + days ∧
      (rest < daysInMonth year m ∨ m = month + fuel) := by
  -- On the months that are left. The days before the month and the rest keep their sum.
  induction fuel generalizing month days with
  | zero => exact ⟨month, days, rfl, Nat.le_refl _, Nat.le_refl _, rfl, .inr rfl⟩
  | succ fuel ih =>
    unfold monthFrom
    by_cases hlt : days < daysInMonth year month
    · rw [if_pos hlt]
      exact ⟨month, days, rfl, Nat.le_refl _, Nat.le_add_right _ _, rfl, .inl hlt⟩
    · rw [if_neg hlt]
      obtain ⟨m, rest, heq, hle, hge, hcount, hstop⟩ := ih (Nat.le_add_left 1 month)
      refine ⟨m, rest, heq, by omega, by omega, ?_, ?_⟩
      · rw [hcount, daysBeforeMonth_succ year h]
        omega
      · omega

/-- Before the last month there are all the days of a year but that month's. -/
theorem daysBeforeMonth_twelve (year : Nat) : daysBeforeMonth year 12 + 31 = daysInYear year := by
  simp only [daysBeforeMonth, daysInMonth, daysInYear]
  cases isLeap year <;> rfl

/-- A day of a year is a day of a month of it. -/
theorem monthFrom_of_lt {year days : Nat} (h : days < daysInYear year) :
    ∃ m rest, monthFrom year 11 1 days = (m, rest) ∧ 1 ≤ m ∧ m ≤ 12 ∧
      daysBeforeMonth year m + rest = days ∧ rest < daysInMonth year m := by
  obtain ⟨m, rest, heq, hle, hge, hcount, hstop⟩ :=
    @monthFrom_spec year 11 1 days (Nat.le_refl 1)
  have hfirst : daysBeforeMonth year 1 = 0 := rfl
  refine ⟨m, rest, heq, hle, hge, by omega, ?_⟩
  rcases hstop with hlt | hlast
  · exact hlt
  · -- The search stops at the last month, which has the days that are left.
    cases (show m = 12 from hlast)
    have htwelve := daysBeforeMonth_twelve year
    have hlast : daysInMonth year 12 = 31 := rfl
    omega

/-! ### Dates -/

/-- The fields of the date of a day. -/
theorem ofDays_spec (days : Nat) :
    ∃ month rest, Date.ofDays days = ⟨yearOfDays days, month, rest + 1⟩ ∧ 1 ≤ month ∧ month ≤ 12 ∧
      rest < daysInMonth (yearOfDays days) month ∧
      daysBeforeYear (yearOfDays days) + daysBeforeMonth (yearOfDays days) month + rest = days := by
  obtain ⟨left, hdays, hleft⟩ := exists_daysBeforeYear_add days
  obtain ⟨month, rest, heq, hle, hge, hcount, hlt⟩ := monthFrom_of_lt hleft
  have hsub : days - daysBeforeYear (yearOfDays days) = left := by omega
  refine ⟨month, rest, ?_, hle, hge, hlt, by omega⟩
  unfold Date.ofDays
  simp only [hsub, heq]

/-- The date of a day counts that day. -/
theorem toDays_ofDays (days : Nat) : (Date.ofDays days).toDays = days := by
  obtain ⟨month, rest, heq, -, -, -, hdays⟩ := ofDays_spec days
  rw [heq]
  exact hdays

/-- The date of a day of the calendar is one that the calendar has. -/
theorem isValid_ofDays {days : Nat} (h : days < daysBeforeYear (maxYear + 1)) :
    (Date.ofDays days).isValid = true := by
  obtain ⟨month, rest, heq, hle, hge, hlt, -⟩ := ofDays_spec days
  rw [heq]
  simp only [Date.isValid, Bool.and_eq_true, decide_eq_true_eq]
  exact ⟨⟨⟨⟨⟨yearOfDays_pos days, yearOfDays_le h⟩, hle⟩, hge⟩, by omega⟩, by omega⟩

end QueryGuard.Calendar
