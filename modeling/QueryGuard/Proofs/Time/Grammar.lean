import Mathlib.Data.List.Sort
import QueryGuard.Proofs.Time.Exact

/-!
# `QueryGuard.Proofs.Time.Grammar`: which texts are durations

A duration is one component or more, each the digits of an amount and the symbol of
its unit, and the units come in the order of the list of all units
(`Duration.Composes`). The scanner that reads a duration knows nothing of this: it
cuts wherever a digit follows a symbol, and asks afterwards whether it knows the
symbols and whether they are in order.

The two agree. What the scanner gives is a split of the text into components
(`exists_pieces_of_scan`, the converse of `scan_of_spells`), so that a text is refused
as no duration exactly if it has no such split. A text never has two
(`Composes.unique`), and the seconds that are added up are those of each unit in turn,
with the number of its component, or zero if it has none (`sumOf`).

`Duration.valid_iff_composes`, behind the pattern that durations also are, puts this
together.
-/

set_option autoImplicit false

namespace QueryGuard.Duration

/-- A component as it stands in a text. -/
structure Piece where
  /-- The digits of the amount. -/
  amount : List Char
  unit : TimeUnit

namespace Piece

/-- How a piece is written. -/
def text (p : Piece) : List Char := p.amount ++ p.unit.symbol.toList

/-- There is an amount, and it is written in decimal digits. -/
def Numbered (p : Piece) : Prop := p.amount ≠ [] ∧ ∀ c ∈ p.amount, Text.isDecimalDigit c = true

/-- The values of the digits. -/
def values (p : Piece) : List Nat := p.amount.map fun c => (Text.digitValue? c).getD 0

/-- What is read of a piece. -/
def component (p : Piece) : Component := ⟨p.values, p.unit⟩

/-- The number that the digits write. -/
def number (p : Piece) : Nat := Text.numberOfDigits p.values

end Piece

/-- A text is the row of pieces, blanks around it aside: there is one at least, each
has an amount, and larger units come first. -/
structure Composes (text : String) (pieces : List Piece) : Prop where
  concatenation : Text.trim text.toList = pieces.flatMap Piece.text
  inhabited : pieces ≠ []
  numbered : ∀ p ∈ pieces, p.Numbered
  ordered : pieces.Pairwise fun p q => p.unit.rank < q.unit.rank

/-! ### The split -/

/-- A piece has a value for each digit it writes. -/
theorem Piece.length_values (p : Piece) : p.values.length = p.amount.length := List.length_map _

/-- The digits of a numbered piece are its values. -/
theorem Piece.Numbered.digits {p : Piece} (h : p.Numbered) : Text.Digits p.amount p.values := by
  -- Stated for any row of digits, since a piece's own amount is fixed.
  have hall : ∀ cs : List Char, (∀ c ∈ cs, Text.isDecimalDigit c = true) →
      Text.Digits cs (cs.map fun c => (Text.digitValue? c).getD 0) := by
    intro cs hcs
    induction cs with
    | nil => exact .nil
    | cons c rest ih =>
      obtain ⟨hc, hrest⟩ := List.forall_mem_cons.1 hcs
      obtain ⟨d, hd⟩ := Option.isSome_iff_exists.1 hc
      refine .cons ?_ (ih hrest)
      show Text.digitValue? c = some ((Text.digitValue? c).getD 0)
      rw [hd, Option.getD_some]
  exact hall p.amount h.2

/-- The values read off a row of digits are those the row denotes. -/
theorem values_of_digits {amount : List Char} {values : List Nat}
    (h : Text.Digits amount values) (u : TimeUnit) : Piece.values ⟨amount, u⟩ = values := by
  show amount.map (fun c => (Text.digitValue? c).getD 0) = values
  induction h with
  | nil => rfl
  | cons hc _ ih => rw [List.map_cons, ih, hc, Option.getD_some]

/-- A row of digits that is not empty makes a numbered piece. -/
theorem numbered_of_digits {amount : List Char} {values : List Nat}
    (h : Text.Digits amount values) (hsome : amount ≠ []) (u : TimeUnit) :
    Piece.Numbered ⟨amount, u⟩ := by
  refine ⟨hsome, fun c hc => ?_⟩
  obtain ⟨d, hd⟩ := h.exists_digitValue? hc
  exact Option.isSome_iff_exists.2 ⟨d, hd⟩

/-- A row of pieces spells what is read of them. -/
theorem spells_of_numbered {pieces : List Piece} (h : ∀ p ∈ pieces, p.Numbered) :
    Spells (pieces.map Piece.component) (pieces.flatMap Piece.text) := by
  induction pieces with
  | nil => exact .nil
  | cons p rest ih =>
    obtain ⟨hp, hrest⟩ := List.forall_mem_cons.1 h
    rw [List.map_cons, List.flatMap_cons, Piece.text, List.append_assoc]
    exact .cons hp.digits hp.1 (ih hrest)

/-- Components are in order when the units of their pieces descend. -/
theorem ordered_component_iff {pieces : List Piece} :
    Ordered (pieces.map Piece.component) ↔
      pieces.Pairwise fun p q => p.unit.rank < q.unit.rank := List.pairwise_map

/-- A text that composes the pieces writes their components. -/
theorem Composes.writes {text : String} {pieces : List Piece} (h : Composes text pieces) :
    Writes text (pieces.map Piece.component) where
  spells := by
    rw [h.concatenation]
    exact spells_of_numbered h.numbered
  inhabited hnil := h.inhabited (List.map_eq_nil_iff.1 hnil)
  ordered := ordered_component_iff.2 h.ordered

/-- Only the symbol of a unit is taken for one. -/
theorem TimeUnit.symbol_of_ofSymbol? {symbol : List Char} {u : TimeUnit}
    (h : ofSymbol? symbol = some u) : u.symbol.toList = symbol := by
  have hfound := List.find?_some h
  exact of_decide_eq_true hfound

/-- A component is formed from its digits and its unit's own symbol. -/
theorem Component.of?_eq_some {digits : List Nat} {symbol : List Char} {c : Component}
    (h : of? digits symbol = some c) : c.digits = digits ∧ c.unit.symbol.toList = symbol := by
  obtain ⟨u, hu, rfl⟩ := Option.map_eq_some_iff.1 h
  exact ⟨rfl, TimeUnit.symbol_of_ofSymbol? hu⟩

/-- A component that has been read stands in the text as a piece: the digits and the symbol
that were read. -/
theorem exists_piece_of_component {amount symbol : List Char} {values : List Nat} {c : Component}
    (hamount : Text.Digits amount values) (hsymbol : symbol ≠ [] → amount ≠ [])
    (h : Component.of? values symbol = some c) :
    ∃ p : Piece, p.component = c ∧ p.Numbered ∧ p.text = amount ++ symbol := by
  obtain ⟨rfl, rfl⟩ := Component.of?_eq_some h
  refine ⟨⟨amount, c.unit⟩, ?_, ?_, rfl⟩
  · rw [Piece.component, values_of_digits hamount]
  · exact numbered_of_digits hamount (hsymbol c.unit.symbol_ne_nil) c.unit

/-- What the scanner gives is a split of the text, with what it has read of the current
component in front. -/
theorem exists_pieces_of_scan {amount symbol cs : List Char} {values : List Nat}
    {components : List Component} (hamount : Text.Digits amount values)
    (hsymbol : symbol ≠ [] → amount ≠ []) (h : scan values symbol cs = some components) :
    ∃ pieces, pieces.map Piece.component = components ∧ pieces ≠ [] ∧
      (∀ p ∈ pieces, p.Numbered) ∧ amount ++ (symbol ++ cs) = pieces.flatMap Piece.text := by
  induction cs generalizing amount symbol values components with
  | nil =>
    -- The text ends behind a symbol, and that is the symbol of a unit.
    obtain ⟨c, hc, heq⟩ := Option.bind_eq_some_iff.1 h
    cases heq
    obtain ⟨p, rfl, hp, htext⟩ := exists_piece_of_component hamount hsymbol hc
    refine ⟨[p], rfl, List.cons_ne_nil _ _, List.forall_mem_singleton.2 hp, ?_⟩
    rw [List.flatMap_singleton, List.append_nil, htext]
  | cons c rest ih =>
    unfold scan at h
    split at h
    · next d hd =>
      have hlast : Text.Digits [c] [d] := .cons hd .nil
      split at h
      · next hempty =>
        -- One more digit of the amount.
        cases List.isEmpty_iff.1 hempty
        have hlonger : Text.Digits (amount ++ [c]) (values ++ [d]) :=
          List.rel_append hamount hlast
        obtain ⟨pieces, hmap, hne, hall, htext⟩ := ih hlonger (absurd rfl) h
        refine ⟨pieces, hmap, hne, hall, ?_⟩
        rw [← htext, List.append_assoc]
        rfl
      · next hsome =>
        -- The digit starts another component, and the one before it is complete.
        obtain ⟨first, hfirst, hothers⟩ := Option.bind_eq_some_iff.1 h
        obtain ⟨others, hscan, heq⟩ := Option.bind_eq_some_iff.1 hothers
        cases heq
        obtain ⟨p, rfl, hp, hfront⟩ := exists_piece_of_component hamount hsymbol hfirst
        obtain ⟨pieces, hmap, -, hall, htext⟩ := ih hlast (absurd rfl) hscan
        refine ⟨p :: pieces, ?_, List.cons_ne_nil _ _, List.forall_mem_cons.2 ⟨hp, hall⟩, ?_⟩
        · rw [List.map_cons, hmap]
        · rw [List.flatMap_cons, hfront, ← htext, List.append_assoc]
          rfl
    · next hnone =>
      split at h
      · cases h
      · next hdigits =>
        -- One more character of the symbol.
        have hsome : amount ≠ [] := by
          rintro rfl
          cases hamount
          exact hdigits rfl
        obtain ⟨pieces, hmap, hne, hall, htext⟩ := ih hamount (fun _ => hsome) h
        refine ⟨pieces, hmap, hne, hall, ?_⟩
        rw [← htext, List.append_assoc symbol]
        rfl

/-- The scanner gives only components that the text is written as. -/
theorem spells_of_scan {cs : List Char} {components : List Component}
    (h : scan [] [] cs = some components) : Spells components cs ∧ components ≠ [] := by
  obtain ⟨pieces, rfl, hne, hall, htext⟩ := exists_pieces_of_scan .nil (absurd rfl) h
  have hcs : cs = pieces.flatMap Piece.text := htext
  refine ⟨?_, fun hnil => hne (List.map_eq_nil_iff.1 hnil)⟩
  rw [hcs]
  exact spells_of_numbered hall

/-- A text is read as the components of a split, if it has one. -/
theorem components?_eq_some_iff {text : String} {components : List Component} :
    components? (Text.trim text.toList) = some components ↔
      ∃ pieces, Composes text pieces ∧ pieces.map Piece.component = components := by
  constructor
  · intro h
    obtain ⟨found, hscan, hkept⟩ := Option.bind_eq_some_iff.1 h
    -- What was scanned is kept only if the units descend.
    split at hkept
    · next hordered =>
      cases hkept
      obtain ⟨pieces, rfl, hne, hall, htext⟩ :=
        exists_pieces_of_scan .nil (absurd rfl) hscan
      exact ⟨pieces, ⟨htext, hne, hall, ordered_component_iff.1 hordered⟩, rfl⟩
    · cases hkept
  · rintro ⟨pieces, hcomposes, rfl⟩
    exact components?_of_writes hcomposes.writes

/-- Pieces of one text that are read alike are alike. -/
theorem eq_of_map_component_eq {pieces others : List Piece}
    (hmap : pieces.map Piece.component = others.map Piece.component)
    (htext : pieces.flatMap Piece.text = others.flatMap Piece.text) : pieces = others := by
  induction pieces generalizing others with
  | nil => exact (List.map_eq_nil_iff.1 hmap.symm).symm
  | cons p rest ih =>
    obtain ⟨q, others, rfl⟩ := List.exists_cons_of_ne_nil
      (show others ≠ [] by rintro rfl; cases hmap)
    obtain ⟨hhead, htail⟩ := List.cons.inj hmap
    obtain ⟨amount, unit⟩ := p
    obtain ⟨amount', unit'⟩ := q
    obtain ⟨hvalues, rfl⟩ := Component.mk.inj hhead
    -- The amounts have as many digits as values, so that both texts are cut at one place.
    have hlength : amount.length = amount'.length := by
      have hlengths := congrArg List.length hvalues
      rw [Piece.length_values, Piece.length_values] at hlengths
      exact hlengths
    simp only [List.flatMap_cons, Piece.text, List.append_assoc] at htext
    obtain ⟨rfl, hbehind⟩ := List.append_inj htext hlength
    rw [ih htail (List.append_cancel_left hbehind)]

/-- A text has no two splits. -/
theorem Composes.unique {text : String} {pieces others : List Piece}
    (h : Composes text pieces) (hother : Composes text others) : others = pieces := by
  have hread := components?_of_writes h.writes
  rw [components?_of_writes hother.writes] at hread
  exact eq_of_map_component_eq (Option.some.inj hread)
    (hother.concatenation.symm.trans h.concatenation)

/-! ### The seconds of each unit -/

/-- The number of a unit in a row of pieces: that of its piece, or zero if it has none.
A row of too many digits has no number. -/
def amountOf (pieces : List Piece) (u : TimeUnit) : Except TimeError Nat :=
  match pieces.find? (·.unit = u) with
  | none => .ok 0
  | some p =>
    if p.amount.length ≤ Numeral.maxDigits then .ok p.number
    else .error (.numeralTooLong p.amount.length)

/-- So many of a unit in seconds: the whole product, or the number times a thousandth. -/
def secondsOf (u : TimeUnit) (n : Nat) : Except TimeError Double :=
  if u = .millisecond then (whole n).map (·.mul thousandth) else whole (n * u.seconds)

/-- The seconds of a row of units, each as often as `amount` says, added to those
before. -/
def sumOf (amount : TimeUnit → Except TimeError Nat) (total : Double) :
    List TimeUnit → Except TimeError Double
  | [] => .ok total
  | u :: rest => do
    let n ← amount u
    let x ← secondsOf u n
    sumOf amount (total.add x) rest

/-- The piece with the unit gives the unit's amount, if it is short enough to be read. -/
theorem amountOf_cons_self (p : Piece) (rest : List Piece) :
    amountOf (p :: rest) p.unit =
      if p.amount.length ≤ Numeral.maxDigits then .ok p.number
      else .error (.numeralTooLong p.amount.length) := by
  rw [amountOf, List.find?_cons_of_pos (by simp)]

/-- A piece with another unit is passed over. -/
theorem amountOf_cons_of_ne {p : Piece} {u : TimeUnit} (h : p.unit ≠ u) (rest : List Piece) :
    amountOf (p :: rest) u = amountOf rest u := by
  rw [amountOf, List.find?_cons_of_neg (by simpa using h), amountOf]

/-- A unit that no piece has amounts to nothing. -/
theorem amountOf_of_not_mem {pieces : List Piece} {u : TimeUnit}
    (h : u ∉ pieces.map Piece.unit) : amountOf pieces u = .ok 0 := by
  have hnone : pieces.find? (·.unit = u) = none := by
    refine List.find?_eq_none.2 fun p hp heq => h ?_
    exact List.mem_map.2 ⟨p, hp, of_decide_eq_true heq⟩
  rw [amountOf, hnone]

/-- Units in the order of a duration stand in the order of the list of all units. -/
theorem TimeUnit.sublist_all {units : List TimeUnit}
    (h : units.Pairwise fun u v => u.rank < v.rank) : units.Sublist all := by
  have hirrefl : Std.Irrefl fun u v : TimeUnit => u.rank < v.rank := ⟨fun _ => Nat.lt_irrefl _⟩
  have hantisymm : Std.Antisymm fun u v : TimeUnit => u.rank < v.rank :=
    ⟨fun _ _ huv hvu => absurd hvu (Nat.lt_asymm huv)⟩
  have hsubset : units ⊆ all := fun u _ => by cases u <;> decide
  exact List.sublist_of_subperm_of_pairwise (List.subperm_of_subset h.nodup hsubset) h (by decide)

/-- Zero is a double. -/
theorem whole_zero : whole 0 = .ok Double.zero := by
  decide +kernel

/-- Nothing of a unit takes no time. -/
theorem secondsOf_zero (u : TimeUnit) : secondsOf u 0 = .ok Double.zero := by
  have hproduct : Double.zero.mul thousandth = Double.zero := by decide +kernel
  by_cases hu : u = .millisecond
  · rw [secondsOf, if_pos hu, whole_zero, Except.map, hproduct]
  · rw [secondsOf, if_neg hu, Nat.zero_mul, whole_zero]

/-- The seconds of a piece, by whether its unit is finer than a second. -/
theorem secondsOf_number (p : Piece) :
    secondsOf p.unit p.number =
      if p.unit = .millisecond then (whole p.component.amount).map (·.mul thousandth)
      else whole p.component.amount := by
  obtain ⟨amount, unit⟩ := p
  -- A millisecond is the one unit that is not a whole number of seconds.
  by_cases hu : unit = .millisecond
  · subst hu
    have hamount : (Piece.component ⟨amount, .millisecond⟩).amount =
        Piece.number ⟨amount, .millisecond⟩ := rfl
    rw [secondsOf, if_pos rfl, if_pos rfl, hamount]
  · have hamount : (Piece.component ⟨amount, unit⟩).amount =
        Piece.number ⟨amount, unit⟩ * unit.seconds := by
      cases unit with
      | millisecond => exact absurd rfl hu
      | _ => rfl
    rw [secondsOf, if_neg hu, if_neg hu, hamount]

/-- The seconds of a component are those of its number. -/
theorem toSeconds_component (p : Piece) (rest : List Piece) :
    p.component.toSeconds = amountOf (p :: rest) p.unit >>= secondsOf p.unit := by
  have hlength : p.component.digits.length = p.amount.length := p.length_values
  rw [amountOf_cons_self]
  by_cases hread : p.component.Readable
  · have hle : p.amount.length ≤ Numeral.maxDigits := hlength ▸ hread
    rw [Component.toSeconds_of_readable hread, if_pos hle]
    exact (secondsOf_number p).symm
  · have hlong : ¬ p.amount.length ≤ Numeral.maxDigits := hlength ▸ hread
    rw [Component.toSeconds_of_not_readable hread, if_neg hlong, hlength]
    rfl

/-- A double made from a whole number is not below zero. -/
theorem fromZero_of_whole {n : Nat} {x : Double} (h : whole n = .ok x) : x.FromZero :=
  (counts_of_whole h).fromZero

/-- Nor is its thousandth. -/
theorem fromZero_mul_thousandth {x : Double} (h : x.FromZero) : (x.mul thousandth).FromZero := by
  rw [thousandth_eq]
  cases h with
  | finite units => exact Double.fromZero_ofUnits _
  | infinite =>
    have hpos : 4611686018427388 * grain ≠ 0 := Nat.ne_of_gt (Nat.mul_pos (by decide) grain_pos)
    show Double.FromZero (if 4611686018427388 * grain = 0 then .nan else .infinite false)
    rw [if_neg hpos]
    exact .infinite

/-- So a unit's seconds are never below zero. -/
theorem fromZero_of_secondsOf {u : TimeUnit} {n : Nat} {x : Double}
    (h : secondsOf u n = .ok x) : x.FromZero := by
  unfold secondsOf at h
  split at h
  · cases hwhole : whole n with
    | error e =>
      rw [hwhole] at h
      cases h
    | ok y =>
      rw [hwhole] at h
      cases h
      exact fromZero_mul_thousandth (fromZero_of_whole hwhole)
  · exact fromZero_of_whole h

/-- The components of a row of pieces are added up as their units in turn are, units
without a piece counting for nothing. -/
theorem sumOf_eq_addSeconds {units : List TimeUnit} {pieces : List Piece}
    {amount : TimeUnit → Except TimeError Nat} {total : Double}
    (hsub : (pieces.map Piece.unit).Sublist units) (honce : units.Nodup)
    (hamount : ∀ u ∈ units, amount u = amountOf pieces u) (hfrom : total.FromZero)
    (hzero : total.add Double.zero = total) :
    sumOf amount total units = addSeconds total (pieces.map Piece.component) := by
  induction units generalizing pieces total with
  | nil =>
    obtain rfl := List.map_eq_nil_iff.1 (List.sublist_nil.1 hsub)
    rfl
  | cons u rest ih =>
    obtain ⟨hnew, hnodup⟩ := List.nodup_cons.1 honce
    obtain ⟨hhead, hrest⟩ := List.forall_mem_cons.1 hamount
    rcases List.sublist_cons_iff.1 hsub with hskip | ⟨taken, hunits, htaken⟩
    · -- No piece has this unit.
      have hnone : amount u = .ok 0 := by
        rw [hhead, amountOf_of_not_mem fun hmem => hnew (hskip.subset hmem)]
      have hstep : sumOf amount total (u :: rest) = sumOf amount total rest := by
        rw [sumOf, hnone]
        show (secondsOf u 0 >>= fun x => sumOf amount (total.add x) rest) = _
        rw [secondsOf_zero]
        show sumOf amount (total.add Double.zero) rest = _
        rw [hzero]
      rw [hstep]
      exact ih hskip hnodup hrest hfrom hzero
    · -- The first piece has it.
      obtain ⟨p, others, rfl, rfl, rfl⟩ := List.map_eq_cons_iff.1 hunits
      have hothers : ∀ v ∈ rest, amount v = amountOf others v := by
        intro v hv
        have hne : p.unit ≠ v := fun heq => hnew (heq ▸ hv)
        rw [hrest v hv, amountOf_cons_of_ne hne]
      rw [List.map_cons, addSeconds, toSeconds_component p others, sumOf, hhead]
      cases amountOf (p :: others) p.unit with
      | error e => rfl
      | ok n =>
        show (secondsOf p.unit n >>= fun x => sumOf amount (total.add x) rest) =
          (secondsOf p.unit n >>= fun x => addSeconds (total.add x) (others.map Piece.component))
        cases hx : secondsOf p.unit n with
        | error e => rfl
        | ok x =>
          have hxfrom := fromZero_of_secondsOf hx
          exact ih htaken hnodup hothers (hfrom.add hxfrom)
            (Double.add_zero_of_sum hfrom hxfrom)

/-- The sum of the components of a text is that of all units in turn. -/
theorem Composes.addSeconds_eq {text : String} {pieces : List Piece}
    (h : Composes text pieces) :
    addSeconds Double.zero (pieces.map Piece.component) =
      sumOf (amountOf pieces) Double.zero TimeUnit.all := by
  have hordered : (pieces.map Piece.unit).Pairwise fun u v => u.rank < v.rank :=
    List.pairwise_map.2 h.ordered
  have hzero : Double.zero.add Double.zero = Double.zero := by decide +kernel
  exact (sumOf_eq_addSeconds (TimeUnit.sublist_all hordered) (by decide) (fun _ _ => rfl)
    (.finite 0) hzero).symm

/-! ### What is refused -/

/-- A number of seconds as a duration; `text` is at fault if it is too long for one. -/
def ofSeconds (text : String) (seconds : Double) : Except TimeError Duration :=
  (ofSeconds? seconds).elim (.error (.durationTooLarge (some text))) .ok

/-- A text of components is read as their sum. -/
theorem Writes.parse_eq {text : String} {components : List Component}
    (h : Writes text components) :
    parse (some text) = addSeconds Double.zero components >>= ofSeconds text := by
  unfold parse ofSeconds
  simp only [Option.getD_some, components?_of_writes h]
  cases addSeconds Double.zero components with
  | error e => rfl
  | ok seconds =>
    simp only [bind, Except.bind]
    cases ofSeconds? seconds <;> rfl

/-- What stops a component's seconds is a breakdown, never a refusal. -/
theorem Component.isRefusal_of_toSeconds {c : Component} {e : TimeError}
    (h : c.toSeconds = .error e) : e.isRefusal = false := by
  rcases c.unreadable_or_tooLarge_or_fits with hlong | hlarge | hfits
  · rw [toSeconds_of_not_readable hlong] at h
    cases h
    rfl
  · rw [hlarge.toSeconds_eq] at h
    cases h
    rfl
  · obtain ⟨x, hx⟩ := hfits.exists_toSeconds
    cases hx.symm.trans h

/-- A sum that cannot be made is no refusal of the text. -/
theorem isRefusal_of_addSeconds {components : List Component} {total : Double} {e : TimeError}
    (h : addSeconds total components = .error e) : e.isRefusal = false := by
  -- On the components; the sum so far varies.
  induction components generalizing total with
  | nil => cases h
  | cons c rest ih =>
    rw [addSeconds] at h
    cases hc : c.toSeconds with
    | error fault =>
      rw [hc] at h
      cases h
      exact Component.isRefusal_of_toSeconds hc
    | ok x =>
      rw [hc] at h
      exact ih h

/-- A text that composes pieces is never an invalid duration. -/
theorem Composes.parse_ne {text : String} {pieces : List Piece} (h : Composes text pieces) :
    parse (some text) ≠ .error (.invalidDuration (some text)) := by
  intro herror
  rw [h.writes.parse_eq] at herror
  -- The pieces are read, so what fails after that is the sum or its length in days.
  cases hsum : addSeconds Double.zero (pieces.map Piece.component) with
  | error e =>
    have hrefusal := isRefusal_of_addSeconds hsum
    rw [hsum] at herror
    cases herror
    cases hrefusal
  | ok seconds =>
    rw [hsum] at herror
    change ofSeconds text seconds = _ at herror
    unfold ofSeconds at herror
    cases hlength : ofSeconds? seconds with
    | none =>
      rw [hlength] at herror
      cases herror
    | some d =>
      rw [hlength] at herror
      cases herror

end QueryGuard.Duration
