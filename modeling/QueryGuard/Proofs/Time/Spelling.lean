import QueryGuard.Proofs.Text.DecimalDigit
import QueryGuard.Time.Duration

/-!
# `QueryGuard.Proofs.Time.Spelling`: how durations are written

A duration is written component by component: the digits of an amount, of whatever
script, and the symbol of its unit behind them (`Duration.Spells`). Nothing stands
between two components. They are still told apart, because no symbol has a digit in
it: the first other character ends an amount, and the next digit ends a symbol. That
is also why an `m` is not taken for the start of an `ms`.

`Duration.scan_of_spells` says that the scanner cuts a text back into the components
that it was written for, and `Duration.components?_of_writes` that a text is read as
them if they are in order.
-/

set_option autoImplicit false

namespace QueryGuard.Duration

/-- A row of components and a text that it is written as. -/
inductive Spells : List Component → List Char → Prop
  | nil : Spells [] []
  | cons {digits : List Char} {c : Component} {rest : List Component} {text : List Char}
      (amount : Text.Digits digits c.digits) (begun : digits ≠ []) (others : Spells rest text) :
      Spells (c :: rest) (digits ++ (c.unit.symbol.toList ++ text))

/-- A text is a duration of the components: it is written as them, blanks aside,
there is one at least, and the larger units come first. -/
structure Writes (text : String) (components : List Component) : Prop where
  spells : Spells components (Text.trim text.toList)
  inhabited : components ≠ []
  ordered : Ordered components

/-- A component as it is written in ASCII digits. -/
def Component.text (c : Component) : List Char :=
  c.digits.map Nat.digitChar ++ c.unit.symbol.toList

/-- Every row of components with decimal digits can be written. -/
theorem spells_text {components : List Component}
    (h : ∀ c ∈ components, c.digits ≠ [] ∧ ∀ d ∈ c.digits, d < 10) :
    Spells components (components.flatMap Component.text) := by
  induction components with
  | nil => exact .nil
  | cons c rest ih =>
    obtain ⟨⟨hsome, hdecimal⟩, hrest⟩ := List.forall_mem_cons.1 h
    have hbegun : c.digits.map Nat.digitChar ≠ [] := fun hempty =>
      hsome (List.map_eq_nil_iff.1 hempty)
    rw [List.flatMap_cons, Component.text, List.append_assoc]
    exact .cons (Text.digits_map_digitChar hdecimal) hbegun (ih hrest)

namespace TimeUnit

/-- No unit's symbol holds a digit, so a numeral ends where the symbol begins. -/
theorem digitValue?_of_mem_symbol {u : TimeUnit} {c : Char} (h : c ∈ u.symbol.toList) :
    Text.digitValue? c = none := by
  have hall : (u.symbol.toList.all fun d => (Text.digitValue? d).isNone) = true := by
    cases u <;> rfl
  exact Option.isNone_iff_eq_none.1 (List.all_eq_true.1 hall c h)

/-- No unit goes without a symbol. -/
theorem symbol_ne_nil (u : TimeUnit) : u.symbol.toList ≠ [] := by
  cases u <;> decide

/-- A unit is known by its symbol. -/
theorem ofSymbol?_symbol (u : TimeUnit) : ofSymbol? u.symbol.toList = some u := by
  cases u <;> rfl

end TimeUnit

/-- A component is formed from its own digits and symbol. -/
theorem Component.of?_symbol (c : Component) : of? c.digits c.unit.symbol.toList = some c := by
  rw [of?, TimeUnit.ofSymbol?_symbol]
  rfl

/-! ### The scanner, piece by piece -/

/-- Digits at the beginning of a component go to its amount. -/
theorem scan_amount {cs : List Char} {values : List Nat} (h : Text.Digits cs values)
    (digits : List Nat) (rest : List Char) :
    scan digits [] (cs ++ rest) = scan (digits ++ values) [] rest := by
  induction h generalizing digits with
  | nil => rw [List.append_nil, List.nil_append]
  | @cons c d cs values hc _ ih =>
    have hstep : scan digits [] (c :: (cs ++ rest)) = scan (digits ++ [d]) [] (cs ++ rest) := by
      simp only [scan, hc, List.isEmpty_nil, if_true]
    rw [List.cons_append, hstep, ih, List.append_assoc, List.singleton_append]

/-- What is no digit goes to the symbol of a component, once it has an amount. -/
theorem scan_symbol {cs : List Char} (h : ∀ c ∈ cs, Text.digitValue? c = none)
    {digits : List Nat} (hdigits : digits ≠ []) (symbol rest : List Char) :
    scan digits symbol (cs ++ rest) = scan digits (symbol ++ cs) rest := by
  induction cs generalizing symbol with
  | nil => rw [List.append_nil, List.nil_append]
  | cons c cs ih =>
    obtain ⟨hc, hcs⟩ := List.forall_mem_cons.1 h
    have hstep : scan digits symbol (c :: (cs ++ rest)) =
        scan digits (symbol ++ [c]) (cs ++ rest) := by
      have hsome : ¬ digits.isEmpty = true := fun hempty => hdigits (List.isEmpty_iff.1 hempty)
      simp only [scan, hc, if_neg hsome]
    rw [List.cons_append, hstep, ih hcs, List.append_assoc, List.singleton_append]

/-- A whole component is read up to the end of its symbol. -/
theorem scan_component {digits : List Char} {c : Component}
    (amount : Text.Digits digits c.digits) (begun : digits ≠ []) (text : List Char) :
    scan [] [] (digits ++ (c.unit.symbol.toList ++ text)) =
      scan c.digits c.unit.symbol.toList text := by
  rw [scan_amount amount, List.nil_append,
    scan_symbol (fun _ h => TimeUnit.digitValue?_of_mem_symbol h) (amount.ne_nil begun),
    List.nil_append]

/-- A digit behind a symbol ends the component, and the scanner starts anew. -/
theorem scan_digit {d : Char} {value : Nat} (hd : Text.digitValue? d = some value) (c : Component)
    (rest : List Char) :
    scan c.digits c.unit.symbol.toList (d :: rest) = (scan [] [] (d :: rest)).map (c :: ·) := by
  have hsymbol : ¬ c.unit.symbol.toList.isEmpty = true := fun hempty =>
    c.unit.symbol_ne_nil (List.isEmpty_iff.1 hempty)
  have hanew : scan [] [] (d :: rest) = scan [value] [] rest := by
    simp only [scan, hd, List.isEmpty_nil, if_true, List.nil_append]
  rw [hanew]
  simp only [scan, hd, if_neg hsymbol, c.of?_symbol]
  cases scan [value] [] rest <;> rfl

/-- The components that follow are read behind a symbol. -/
theorem scan_others {components : List Component} {text : List Char}
    (h : Spells components text) (c : Component) :
    scan c.digits c.unit.symbol.toList text = some (c :: components) := by
  -- One component is read with the symbol of the one before it in hand.
  induction h generalizing c with
  | nil =>
    simp only [scan, c.of?_symbol]
    rfl
  | @cons digits next rest text amount begun _ ih =>
    have hnext := scan_component amount begun text
    obtain ⟨d, ds, rfl⟩ := List.exists_cons_of_ne_nil begun
    obtain ⟨value, values, hd, -, -⟩ := List.forall₂_cons_left_iff.1 amount
    rw [List.cons_append] at hnext ⊢
    rw [scan_digit hd, hnext, ih next]
    rfl

/-- A text is cut back into the components that it is written for. -/
theorem scan_of_spells {components : List Component} {text : List Char}
    (h : Spells components text) (hsome : components ≠ []) :
    scan [] [] text = some components := by
  cases h with
  | nil => exact absurd rfl hsome
  | @cons digits c rest text amount begun others =>
    rw [scan_component amount begun, scan_others others]

/-- A text is read as the components that it is a duration of. -/
theorem components?_of_writes {text : String} {components : List Component}
    (h : Writes text components) : components? (Text.trim text.toList) = some components := by
  unfold components?
  rw [scan_of_spells h.spells h.inhabited]
  exact if_pos h.ordered

end QueryGuard.Duration
