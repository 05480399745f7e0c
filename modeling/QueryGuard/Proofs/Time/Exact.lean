import QueryGuard.Proofs.Time.Duration
import QueryGuard.Proofs.Time.Milliseconds
import QueryGuard.Proofs.Time.Spelling

/-!
# `QueryGuard.Proofs.Time.Exact`: durations without rounding

The seconds of a duration are summed as doubles, and a sum of doubles is rounded. None
of that shows where it matters. Without milliseconds every partial sum is a whole
number, and up to the longest duration there is it has no more than 53 bits; a sum that
has more is refused, whatever it was rounded to (`Duration.exists_addSeconds`).
Milliseconds come last, so that they are added to a sum that is still exact, and up to
2 to the 30 seconds the last rounding, to microseconds, undoes the others.

`Duration.parse_of_writes` puts it together: within these bounds
(`Duration.WithinGrid`) a duration is read as the exact sum of its components, and two
texts of one length are read alike. Beyond 2 to the 30 seconds nothing is said of a
duration with milliseconds.
-/

set_option autoImplicit false

namespace QueryGuard.Duration

/-- The microseconds in a unit. -/
def TimeUnit.micros : TimeUnit → Nat
  | .millisecond => 1000
  | u => u.seconds * 1000000

/-- The exact number of microseconds of a component. -/
def Component.exactMicros (c : Component) : Nat := Text.numberOfDigits c.digits * c.unit.micros

/-- The exact number of microseconds of a row of components. -/
def exactMicros (components : List Component) : Nat :=
  (components.map Component.exactMicros).sum

/-- Some of the components are milliseconds. -/
def HasMillis (components : List Component) : Prop := ∃ c ∈ components, c.unit = .millisecond

/-- The microseconds of a thousand million days, of which a duration has fewer. -/
def microsLimit : Nat := 86400000000000 * 1000000

/-- A row of components whose rounding does not show: its numbers can be read, and it is
no longer than a duration may be, or, with milliseconds, than 2 to the 30 seconds. -/
structure WithinGrid (components : List Component) : Prop where
  readable : ∀ c ∈ components, c.Readable
  coarse : ¬ HasMillis components → exactMicros components < microsLimit
  fine : HasMillis components → exactMicros components ≤ 2 ^ 30 * 1000000

/-! ### Sums of whole seconds -/

/-- The exact total of a row takes one component at a time. -/
theorem exactMicros_cons (c : Component) (rest : List Component) :
    exactMicros (c :: rest) = c.exactMicros + exactMicros rest := List.sum_cons

/-- It is additive over rows. -/
theorem exactMicros_append (front back : List Component) :
    exactMicros (front ++ back) = exactMicros front + exactMicros back := by
  unfold exactMicros
  rw [List.map_append, List.sum_append]

/-- A unit of whole seconds counts a million microseconds for each. -/
theorem Component.exactMicros_of_whole {c : Component} (h : c.unit ≠ .millisecond) :
    c.exactMicros = c.amount * 1000000 := by
  obtain ⟨digits, unit⟩ := c
  cases unit with
  | millisecond => exact absurd rfl h
  | _ => exact (Nat.mul_assoc ..).symm

/-- A millisecond counts a thousand. -/
theorem Component.exactMicros_of_millis {c : Component} (h : c.unit = .millisecond) :
    c.exactMicros = c.amount * 1000 := by
  obtain ⟨digits, unit⟩ := c
  cases h
  rfl

/-- The whole seconds of a row of components. -/
def wholeSeconds (components : List Component) : Nat := (components.map Component.amount).sum

/-- A row without milliseconds totals a whole number of seconds. -/
theorem exactMicros_of_whole {components : List Component}
    (h : ∀ c ∈ components, c.unit ≠ .millisecond) :
    exactMicros components = wholeSeconds components * 1000000 := by
  induction components with
  | nil => rfl
  | cons c rest ih =>
    obtain ⟨hc, hrest⟩ := List.forall_mem_cons.1 h
    have hsum : wholeSeconds (c :: rest) = c.amount + wholeSeconds rest := List.sum_cons
    rw [exactMicros_cons, hsum, Nat.add_mul, c.exactMicros_of_whole hc, ih hrest]

/-- A double made from a whole number counts it. -/
theorem counts_of_whole {n : Nat} {x : Double} (h : whole n = .ok x) : Double.Counts n x := by
  unfold whole at h
  cases hsome : Double.ofInt? n with
  | none =>
    rw [hsome] at h
    cases h
  | some y =>
    rw [hsome] at h
    cases h
    exact Double.counts_of_ofInt? hsome

/-- Components of whole seconds are added one by one, and the sum stands for all of
their seconds. -/
theorem exists_addSeconds {components : List Component}
    (hwhole : ∀ c ∈ components, c.unit ≠ .millisecond) (hfits : ∀ c ∈ components, c.Fits)
    {n : Nat} {x : Double} (hx : Double.Counts n x) :
    ∃ y, Double.Counts (n + wholeSeconds components) y ∧
      ∀ more, addSeconds x (components ++ more) = addSeconds y more := by
  -- What has been added before stands for some number, whichever it is.
  induction components generalizing n x with
  | nil => exact ⟨x, hx, fun _ => rfl⟩
  | cons c rest ih =>
    obtain ⟨hc, hrest⟩ := List.forall_mem_cons.1 hwhole
    obtain ⟨hcfits, hrestfits⟩ := List.forall_mem_cons.1 hfits
    obtain ⟨z, hz⟩ := exists_whole_of_small hcfits.small
    have hseconds : c.toSeconds = .ok z := by
      rw [Component.toSeconds_of_readable hcfits.readable, if_neg hc, hz]
    obtain ⟨y, hy, hmore⟩ := ih hrest hrestfits (hx.add (counts_of_whole hz))
    have hsum : wholeSeconds (c :: rest) = c.amount + wholeSeconds rest := List.sum_cons
    refine ⟨y, ?_, ?_⟩
    · rw [hsum, ← Nat.add_assoc]
      exact hy
    · intro more
      rw [List.cons_append, addSeconds, hseconds]
      exact hmore more

/-! ### From seconds to durations -/

/-- A number of microseconds is a duration if it is below the limit. -/
theorem ofSeconds?_of_micros {x : Double} {micros : Nat}
    (h : x.toMicroseconds? = some (micros : Int)) :
    ofSeconds? x = if micros < microsLimit then some ⟨micros⟩ else none := by
  have hdays : (micros : Int).fdiv microsPerDay = ((micros / 86400000000 : Nat) : Int) := by
    rw [Int.fdiv_eq_ediv_of_nonneg _ (by decide)]
    rfl
  have hiff : (((micros / 86400000000 : Nat) : Int)).natAbs ≤ maxDays.natAbs ↔
      micros < microsLimit := by
    show micros / 86400000000 ≤ 999999999 ↔ micros < 86400000000000 * 1000000
    omega
  unfold ofSeconds?
  simp only [h, hdays, hiff]

/-- A sum of whole seconds makes a duration of exactly as many, or is too long for
one. -/
theorem ofSeconds?_of_counts {n : Nat} {x : Double} (h : Double.Counts n x) :
    ofSeconds? x = if n * 1000000 < microsLimit then some ⟨(n * 1000000 : Nat)⟩ else none := by
  cases h with
  | exact small => exact ofSeconds?_of_micros (Double.toMicroseconds?_whole n)
  | large large beyond =>
    -- The number is too large, and so is what it has been rounded to.
    obtain ⟨micros, hmicros, hle⟩ := Double.exists_toMicroseconds? beyond
    have hlimit : microsLimit ≤ 2 ^ 53 * 1000000 := by decide
    rw [ofSeconds?_of_micros hmicros, if_neg (by omega), if_neg (by omega)]
  | infinite large =>
    have hlimit : microsLimit ≤ 2 ^ 53 * 1000000 := by decide
    rw [if_neg (by omega)]
    rfl

section
variable {text : String} {components : List Component}

/-- A text is read once its seconds are added up. -/
theorem parse_of_addSeconds {x : Double} (h : Writes text components)
    (hsum : addSeconds Double.zero components = .ok x) :
    parse (some text) = (ofSeconds? x).elim (.error (.durationTooLarge (some text))) .ok := by
  unfold parse
  simp only [Option.getD_some, components?_of_writes h, hsum, bind, Except.bind]
  cases ofSeconds? x <;> rfl

/-- A duration of whole seconds is exact, or refused as too long. -/
theorem parse_of_whole (h : Writes text components)
    (hwhole : ∀ c ∈ components, c.unit ≠ .millisecond) (hfits : ∀ c ∈ components, c.Fits) :
    parse (some text) = if exactMicros components < microsLimit
      then .ok ⟨exactMicros components⟩ else .error (.durationTooLarge (some text)) := by
  obtain ⟨x, hx, hsum⟩ := exists_addSeconds hwhole hfits Double.counts_zero
  rw [Nat.zero_add] at hx
  have hall : addSeconds Double.zero components = .ok x := by
    rw [← List.append_nil components, hsum]
    rfl
  rw [parse_of_addSeconds h hall, ofSeconds?_of_counts hx, exactMicros_of_whole hwhole]
  split <;> rfl

/-! ### Milliseconds -/

/-- Milliseconds are the last component. -/
theorem exists_eq_append_of_hasMillis (hordered : Ordered components) (h : HasMillis components) :
    ∃ front c, components = front ++ [c] ∧ c.unit = .millisecond ∧
      ∀ d ∈ front, d.unit ≠ .millisecond := by
  obtain ⟨c, hc, hunit⟩ := h
  obtain ⟨front, back, rfl⟩ := List.append_of_mem hc
  obtain ⟨-, hback, hfront⟩ := List.pairwise_append.1 hordered
  -- No unit is finer, so in a row of descending units nothing follows.
  have hnone : back = [] := by
    refine List.eq_nil_iff_forall_not_mem.2 fun d hd => ?_
    have hrank := (List.pairwise_cons.1 hback).1 d hd
    rw [hunit] at hrank
    revert hrank
    cases d.unit <;> decide
  subst hnone
  refine ⟨front, c, rfl, hunit, fun d hd hmillis => ?_⟩
  have hrank := hfront d hd c List.mem_cons_self
  rw [hunit, hmillis] at hrank
  exact absurd hrank (Nat.lt_irrefl _)

/-- An amount that a double holds exactly fits. -/
theorem Component.fits_of_amount_lt {c : Component} (hread : c.Readable)
    (h : c.amount < 2 ^ 53) : c.Fits :=
  ⟨hread, Nat.lt_of_lt_of_le h (by decide +kernel)⟩

/-- No component of a row exceeds the row's total. -/
theorem amount_le_wholeSeconds {c : Component} (h : c ∈ components) :
    c.amount ≤ wholeSeconds components := by
  obtain ⟨front, back, rfl⟩ := List.append_of_mem h
  unfold wholeSeconds
  rw [List.map_append, List.map_cons, List.sum_append, List.sum_cons]
  omega

/-- A duration with milliseconds is exact up to 2 to the 30 seconds. -/
theorem parse_of_hasMillis (h : Writes text components) (hread : ∀ c ∈ components, c.Readable)
    (hmillis : HasMillis components) (hfine : exactMicros components ≤ 2 ^ 30 * 1000000) :
    parse (some text) = .ok ⟨exactMicros components⟩ := by
  obtain ⟨front, c, rfl, hunit, hwhole⟩ := exists_eq_append_of_hasMillis h.ordered hmillis
  have hmicros : exactMicros (front ++ [c]) = wholeSeconds front * 1000000 + c.amount * 1000 := by
    have hlast : exactMicros [c] = c.exactMicros := List.sum_singleton
    rw [exactMicros_append, exactMicros_of_whole hwhole, hlast, c.exactMicros_of_millis hunit]
  rw [hmicros] at hfine
  have hfits : ∀ d ∈ front, d.Fits := by
    intro d hd
    have hle := amount_le_wholeSeconds hd
    exact Component.fits_of_amount_lt (hread d (List.mem_append_left _ hd)) (by omega)
  have hcread : c.Readable := hread c (List.mem_append_right _ List.mem_cons_self)
  have hcfits : c.Fits := Component.fits_of_amount_lt hcread (by omega)
  -- Both parts are short enough to be doubles as they are.
  obtain ⟨x, hx, hsum⟩ := exists_addSeconds hwhole hfits Double.counts_zero
  obtain ⟨y, hy⟩ := exists_whole_of_small hcfits.small
  have hseconds : c.toSeconds = .ok (y.mul thousandth) := by
    rw [Component.toSeconds_of_readable hcread, if_pos hunit, hy]
    rfl
  rw [Nat.zero_add] at hx
  cases hx.eq_exact (by omega)
  cases (counts_of_whole hy).eq_exact (by omega)
  have hall : addSeconds Double.zero (front ++ [c]) =
      .ok (Double.add (.finite false (wholeSeconds front * Double.unitsPerOne))
        (Double.mul (.finite false (c.amount * Double.unitsPerOne)) thousandth)) := by
    rw [hsum, addSeconds, hseconds]
    rfl
  have hexact := ofSeconds?_of_micros
    (toMicroseconds?_add_mul_thousandth (n := wholeSeconds front) (k := c.amount) (by omega))
  have hlimit : 2 ^ 30 * 1000000 < microsLimit := by decide
  rw [parse_of_addSeconds h hall, hexact, if_pos (by omega), hmicros]
  rfl

/-- Within the bounds a duration is read as the exact sum of its components. -/
theorem parse_of_withinGrid (h : Writes text components) (hgrid : WithinGrid components) :
    parse (some text) = .ok ⟨exactMicros components⟩ := by
  -- With milliseconds the sum has a fraction and is rounded; without them it is a whole
  -- number.
  by_cases hmillis : HasMillis components
  · exact parse_of_hasMillis h hgrid.readable hmillis (hgrid.fine hmillis)
  · have hwhole : ∀ c ∈ components, c.unit ≠ .millisecond := fun c hc hunit =>
      hmillis ⟨c, hc, hunit⟩
    have hsmall := hgrid.coarse hmillis
    have hfits : ∀ c ∈ components, c.Fits := by
      intro c hc
      have hle := amount_le_wholeSeconds hc
      have hlimit : microsLimit ≤ 2 ^ 53 * 1000000 := by decide
      rw [exactMicros_of_whole hwhole] at hsmall
      exact Component.fits_of_amount_lt (hgrid.readable c hc) (by omega)
    rw [parse_of_whole h hwhole hfits, if_pos hsmall]

/-- Durations are exact: within the bounds a text is read as the exact sum of its
components, one of whole seconds that is too long is refused, and two texts of one
length are read alike. -/
theorem parse_of_writes (h : Writes text components) :
    (WithinGrid components → parse (some text) = .ok ⟨exactMicros components⟩) ∧
      (¬ HasMillis components → (∀ c ∈ components, c.Fits) →
        microsLimit ≤ exactMicros components →
        parse (some text) = .error (.durationTooLarge (some text))) ∧
      ∀ {other : String} {others : List Component}, Writes other others →
        WithinGrid components → WithinGrid others →
        exactMicros components = exactMicros others → parse (some text) = parse (some other) := by
  refine ⟨parse_of_withinGrid h, ?_, ?_⟩
  · intro hwhole hfits hlong
    have hunits : ∀ c ∈ components, c.unit ≠ .millisecond := fun c hc hunit =>
      hwhole ⟨c, hc, hunit⟩
    rw [parse_of_whole h hunits hfits, if_neg (Nat.not_lt_of_le hlong)]
  · intro other others hother hgrid hgrid' hsame
    rw [parse_of_withinGrid h hgrid, parse_of_withinGrid hother hgrid', hsame]

end

/-! ### Samples -/

/-- A second and a half, in two components. -/
def secondAndHalf : List Component := [⟨[1], .second⟩, ⟨[5, 0, 0], .millisecond⟩]

/-- A second and a half, in milliseconds. -/
def allMillis : List Component := [⟨[1, 5, 0, 0], .millisecond⟩]

/-- A thousand million days, in seconds. -/
def tooManySeconds : List Component := [⟨[8, 6, 4, 0, 0, 0, 0, 0, 0, 0, 0, 0, 0, 0], .second⟩]

/-- One and a half seconds in two units. -/
theorem writes_secondAndHalf : Writes "1s500ms" secondAndHalf :=
  ⟨spells_text (by decide), List.cons_ne_nil _ _, by decide⟩

/-- One and a half seconds in milliseconds. -/
theorem writes_allMillis : Writes "1500ms" allMillis :=
  ⟨spells_text (by decide), List.cons_ne_nil _ _, by decide⟩

/-- The days are written in seconds alone. -/
theorem writes_tooManySeconds : Writes "86400000000000s" tooManySeconds :=
  ⟨spells_text (by decide), List.cons_ne_nil _ _, by decide⟩

/-- Its total is small enough to come out exactly. -/
theorem withinGrid_secondAndHalf : WithinGrid secondAndHalf where
  readable := by decide
  coarse hwhole := absurd ⟨_, List.mem_cons_of_mem _ List.mem_cons_self, rfl⟩ hwhole
  fine _ := by decide

/-- So is the total in milliseconds alone. -/
theorem withinGrid_allMillis : WithinGrid allMillis where
  readable := by decide
  coarse hwhole := absurd ⟨_, List.mem_cons_self, rfl⟩ hwhole
  fine _ := by decide

/-- A second and a half is read alike in two components and in one. -/
theorem parse_secondAndHalf :
    Writes "1s500ms" secondAndHalf ∧ parse (some "1s500ms") = .ok ⟨1500000⟩ ∧
      parse (some "1s500ms") = parse (some "1500ms") ∧
      parse (some "86400000000000s") = .error (.durationTooLarge (some "86400000000000s")) := by
  obtain ⟨hexact, -, hsame⟩ := parse_of_writes writes_secondAndHalf
  obtain ⟨-, hlong, -⟩ := parse_of_writes writes_tooManySeconds
  refine ⟨writes_secondAndHalf, hexact withinGrid_secondAndHalf, ?_, ?_⟩
  · exact hsame writes_allMillis withinGrid_secondAndHalf withinGrid_allMillis rfl
  · refine hlong ?_ ?_ ?_
    · rintro ⟨c, hc, hunit⟩
      cases List.mem_singleton.1 hc
      cases hunit
    · intro c hc
      cases List.mem_singleton.1 hc
      exact Component.fits_of_amount_lt (by decide) (by decide)
    · decide

end QueryGuard.Duration
