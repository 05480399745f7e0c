import QueryGuard.Proofs.Number.Overflow
import QueryGuard.Time.Duration

/-!
# `QueryGuard.Proofs.Time.Duration`: durations that cannot be summed

The seconds of a duration are summed as doubles. A component can be at fault in
two ways: it has more digits than a whole number is read from, or its amount is
too large for a double. The sum itself can be infinite, but it is always there, and
the length is refused afterwards.

Components are read in the order they are written, so the first one that cannot be
converted decides: `Duration.Overflows` says that this one is too large.
`Duration.parse_eq_numberTooLarge_iff` is the exact condition on a text.
-/

set_option autoImplicit false

namespace QueryGuard

namespace Duration

/-- A number past the largest double is too large. -/
theorem whole_of_large {n : Nat} (h : Double.overflowBound ≤ n) :
    whole n = .error .numberTooLarge := by
  have hnone : Double.ofInt? n = none := Double.ofInt?_eq_none_iff.2 h
  rw [whole, hnone]
  rfl

/-- Any smaller one is rounded to a double. -/
theorem exists_whole_of_small {n : Nat} (h : n < Double.overflowBound) :
    ∃ x, whole n = .ok x := by
  have hsome : Double.ofInt? n ≠ none := fun hnone =>
    Nat.not_le_of_lt h (Double.ofInt?_eq_none_iff.1 hnone)
  obtain ⟨x, hx⟩ := Option.ne_none_iff_exists'.1 hsome
  refine ⟨x, ?_⟩
  rw [whole, hx]
  rfl

namespace Component

/-- The whole number that a component is converted from: the seconds it has, or
its milliseconds, which are divided only as a double. -/
def amount (c : Component) : Nat :=
  match c.unit with
  | .millisecond => Text.numberOfDigits c.digits
  | u => Text.numberOfDigits c.digits * u.seconds

/-- The component has no more digits than a whole number is read from. -/
def Readable (c : Component) : Prop := c.digits.length ≤ Numeral.maxDigits

instance (c : Component) : Decidable c.Readable :=
  inferInstanceAs (Decidable (c.digits.length ≤ Numeral.maxDigits))

/-- The component is read, and its amount is too large for a double. -/
structure TooLarge (c : Component) : Prop where
  readable : c.Readable
  large : Double.overflowBound ≤ c.amount

/-- The component is read and converted. -/
structure Fits (c : Component) : Prop where
  readable : c.Readable
  small : c.amount < Double.overflowBound

/-- A numeral too long to read ends with an error that tells its length. -/
theorem toSeconds_of_not_readable {c : Component} (h : ¬ c.Readable) :
    c.toSeconds = .error (.numeralTooLong c.digits.length) := by
  have hdigits : Numeral.ofDigits c.digits = .error (.tooLong c.digits.length) :=
    if_pos (Nat.lt_of_not_le h)
  unfold toSeconds
  rw [hdigits]

/-- A component that is read has the seconds of its amount, or a thousandth of each if
they are milliseconds. -/
theorem toSeconds_of_readable {c : Component} (h : c.Readable) :
    c.toSeconds = if c.unit = .millisecond then (whole c.amount).map (·.mul thousandth)
      else whole c.amount := by
  obtain ⟨digits, unit⟩ := c
  have hdigits : Numeral.ofDigits digits = .ok (Text.numberOfDigits digits) :=
    if_neg (Nat.not_lt_of_le h)
  unfold toSeconds
  simp only [hdigits]
  cases unit <;> rfl

/-- A component too large for a double ends with an error that says so. -/
theorem TooLarge.toSeconds_eq {c : Component} (h : c.TooLarge) :
    c.toSeconds = .error .numberTooLarge := by
  rw [toSeconds_of_readable h.readable, whole_of_large h.large]
  split <;> rfl

/-- A component that fits has its seconds. -/
theorem Fits.exists_toSeconds {c : Component} (h : c.Fits) : ∃ x, c.toSeconds = .ok x := by
  obtain ⟨x, hx⟩ := exists_whole_of_small h.small
  rw [toSeconds_of_readable h.readable, hx]
  split
  · exact ⟨x.mul thousandth, rfl⟩
  · exact ⟨x, rfl⟩

/-- A component is not read, or read and too large, or converted. -/
theorem unreadable_or_tooLarge_or_fits (c : Component) :
    ¬ c.Readable ∨ c.TooLarge ∨ c.Fits := by
  by_cases hread : c.Readable
  · rcases Nat.lt_or_ge c.amount Double.overflowBound with hlt | hge
    · exact .inr (.inr ⟨hread, hlt⟩)
    · exact .inr (.inl ⟨hread, hge⟩)
  · exact .inl hread

end Component

/-- Of the components that cannot be converted, the first is too large. -/
inductive Overflows : List Component → Prop
  | here {c : Component} {rest : List Component} (large : c.TooLarge) : Overflows (c :: rest)
  | later {c : Component} {rest : List Component} (fits : c.Fits) (overflows : Overflows rest) :
      Overflows (c :: rest)

/-- The sum overflows exactly with its components, whatever it starts from. -/
theorem addSeconds_eq_numberTooLarge_iff {components : List Component} (total : Double) :
    addSeconds total components = .error .numberTooLarge ↔ Overflows components := by
  -- The seconds before a component only matter for the sum, so the total is left open.
  induction components generalizing total with
  | nil => exact iff_of_false nofun nofun
  | cons c rest ih =>
    -- The component decides, unless it is converted; then the rest does.
    rcases c.unreadable_or_tooLarge_or_fits with hlong | hlarge | hfits
    · have hsum : addSeconds total (c :: rest) = .error (.numeralTooLong c.digits.length) := by
        rw [addSeconds, Component.toSeconds_of_not_readable hlong]
        rfl
      rw [hsum]
      refine iff_of_false nofun ?_
      intro hover
      cases hover with
      | here large => exact hlong large.readable
      | later fits _ => exact hlong fits.readable
    · have hsum : addSeconds total (c :: rest) = .error .numberTooLarge := by
        rw [addSeconds, hlarge.toSeconds_eq]
        rfl
      exact iff_of_true hsum (.here hlarge)
    · obtain ⟨x, hx⟩ := hfits.exists_toSeconds
      have hsum : addSeconds total (c :: rest) = addSeconds (total.add x) rest := by
        rw [addSeconds, hx]
        rfl
      rw [hsum, ih]
      refine ⟨.later hfits, ?_⟩
      intro hover
      cases hover with
      | here large => exact absurd large.large (Nat.not_le_of_lt hfits.small)
      | later _ overflows => exact overflows

/-- A text is too large to be summed exactly if it is cut into components that
are. -/
theorem parse_eq_numberTooLarge_iff {text : String} :
    parse (some text) = .error .numberTooLarge ↔
      ∃ components, components? (Text.trim text.toList) = some components
        ∧ Overflows components := by
  unfold parse
  simp only [Option.getD_some]
  -- Only the sum of the components can be too large; what follows it fails in other ways.
  cases hread : components? (Text.trim text.toList) with
  | none => exact iff_of_false nofun nofun
  | some components =>
    have hiff : addSeconds Double.zero components = .error .numberTooLarge ↔ Overflows components :=
      addSeconds_eq_numberTooLarge_iff Double.zero
    constructor
    · intro h
      refine ⟨components, rfl, hiff.1 ?_⟩
      cases hsum : addSeconds Double.zero components with
      | error e => simpa [hsum, bind, Except.bind] using h
      | ok seconds =>
        simp only [hsum, bind, Except.bind] at h
        split at h <;> cases h
    · intro h
      obtain ⟨other, hother, hover⟩ := h
      cases hother
      simp only
      rw [hiff.2 hover]
      rfl

end Duration

end QueryGuard
