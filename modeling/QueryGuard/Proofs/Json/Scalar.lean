import QueryGuard.Json.Decoder
import QueryGuard.Json.Encoder
import QueryGuard.Proofs.Number.Numeral

/-!
# `QueryGuard.Proofs.Json.Scalar`: texts and whole numbers that were written are read back

A document writes its texts in quotes, with some characters escaped: by a letter,
by the code of their unit, or, beyond the first plane, by the two codes of their halves.
The reader undoes each of these, one sign at a time (`stringBody_escapedSign`), so that
it finds the closing quote where the writer put it. What it has read then are the signs
that the writer spelled, and where a character was spelled by its halves, these are
joined again (`ofSigns_spelled`). So it gets back the text (`string_written`), whether
the output is ASCII or not, and with the halves that stood alone in it. A code is read
only where something follows it. In a text something always does, for the closing quote
comes last.

A whole number is written in digits, and read back if there are not too many of
them (`scalar_int`). It has no end of its own: what follows must not go on with it
(`Ends`).
-/

set_option autoImplicit false

namespace QueryGuard

namespace Text

/-- A hexadecimal digit has the value it was written for. -/
theorem hexValue?_digitChar {n : Nat} (h : n < 16) : hexValue? (Nat.digitChar n) = some n := by
  revert n
  decide

end Text

namespace Json.Decoder

/-- Four digits that were written are read as the number, if something follows. -/
theorem codeUnit?_hexDigits {n : Nat} (h : n < 0x10000) {after : List Char} (hafter : after ≠ []) :
    codeUnit? (Text.hexDigits 4 n ++ after) = some (n, after) := by
  -- The reader asks for a character behind the digits, so the first of them is split off.
  obtain ⟨e, rest, rfl⟩ := List.exists_cons_of_ne_nil hafter
  have hdigit (m : Nat) := Text.hexValue?_digitChar (Nat.mod_lt m (by decide : 0 < 16))
  show codeUnit? (Nat.digitChar (n / 16 / 16 / 16 % 16) :: Nat.digitChar (n / 16 / 16 % 16) ::
    Nat.digitChar (n / 16 % 16) :: Nat.digitChar (n % 16) :: e :: rest) = some (n, e :: rest)
  simp only [codeUnit?, hdigit]
  have hvalue : ((n / 16 / 16 / 16 % 16 * 16 + n / 16 / 16 % 16) * 16 + n / 16 % 16) * 16 + n % 16
      = n := by omega
  show some (((n / 16 / 16 / 16 % 16 * 16 + n / 16 / 16 % 16) * 16 + n / 16 % 16) * 16 + n % 16,
    e :: rest) = _
  rw [hvalue]

/-- The code points of characters have a bound. -/
theorem toNat_lt (c : Char) : c.toNat < 0x110000 := by
  rcases c.valid with hv | hv
  · have hv' : c.toNat < 0xd800 := hv
    omega
  · exact hv.2

/-- A code stands for the sign of its unit. -/
theorem codeEscape_hexDigits {n : Nat} (h : n < 0x10000) {after : List Char} (hafter : after ≠ []) :
    codeEscape (Text.hexDigits 4 n ++ after) = .ok (.ofUnit n, after) := by
  simp only [codeEscape, codeUnit?_hexDigits h hafter]

/-! ### One sign -/

/-- The signs that are read where a sign was written: its own, or its two halves if it is
a character beyond the first plane in a text of ASCII. -/
def spelled (ascii : Bool) : Sign → List Sign
  | .half h => [.half h]
  | .char c =>
    if ascii && 0x10000 ≤ c.toNat then
      [.ofUnit (0xd800 + (c.toNat - 0x10000) / 0x400), .ofUnit (0xdc00 + (c.toNat - 0x10000) % 0x400)]
    else [.char c]

section
variable {opening fuel : Nat} {after : List Char}

/-- The text that goes on with some signs. -/
def goOn (signs : List Sign) (body : Except Stop (List Sign × List Char)) :
    Except Stop (List Sign × List Char) :=
  body.map fun (others, rest) => (signs ++ others, rest)

/-- A character that needs no escape stands for itself. -/
theorem stringBody_plain {c : Char} (hquote : c ≠ '"') (hslash : c ≠ '\\') (hplain : 0x1f < c.toNat) :
    stringBody opening (fuel + 1) (c :: after) = goOn [.char c] (stringBody opening fuel after) := by
  have hcontrol : ¬ c.toNat ≤ 0x1f := by omega
  -- The reader tries the closing quote and the escapes first: four cases to rule out.
  rw [stringBody]
  · rw [if_neg hcontrol]
    rfl
  · exact hquote
  · exact fun h _ => hslash h
  · exact fun _ h _ => hslash h
  · exact fun _ _ h _ => hslash h

/-- An escape with a letter stands for its character. -/
theorem stringBody_letter {letter c : Char} (hletter : letterEscape? letter = some c) :
    stringBody opening (fuel + 1) ('\\' :: letter :: after) =
      goOn [.char c] (stringBody opening fuel after) := by
  have hu : letter ≠ 'u' := by
    rintro rfl
    cases hletter
  rw [stringBody]
  · rw [hletter]
    rfl
  · exact hu

/-- A sign that was written by its code is read back. -/
theorem stringBody_unitEscape {n : Nat} (h : n < 0x10000) (hafter : after ≠ []) :
    stringBody opening (fuel + 1) (unitEscape n ++ after) =
      goOn [.ofUnit n] (stringBody opening fuel after) := by
  have hescape : unitEscape n ++ after = '\\' :: 'u' :: (Text.hexDigits 4 n ++ after) := rfl
  rw [hescape, stringBody, codeEscape_hexDigits h hafter]
  rfl

/-- Signs that are read one after the other are read as a row. -/
theorem goOn_append (first second : List Sign) (body : Except Stop (List Sign × List Char)) :
    goOn first (goOn second body) = goOn (first ++ second) body := by
  cases body with
  | error stop => rfl
  | ok read => exact congrArg (fun signs => Except.ok (signs, read.2)) (List.append_assoc _ _ _).symm

/-- A character that takes one sign is read back, however it was written. -/
theorem stringBody_escapedChar {ascii : Bool} {c : Char}
    (hone : (ascii && decide (0x10000 ≤ c.toNat)) = false) (hafter : after ≠ []) :
    stringBody opening (fuel + 1) (escapedChar ascii c ++ after) =
      goOn [.char c] (stringBody opening fuel after) := by
  -- The cases are those of the writer, in its order.
  by_cases hquote : c = '"'
  · subst hquote
    exact stringBody_letter rfl
  by_cases hslash : c = '\\'
  · subst hslash
    exact stringBody_letter rfl
  by_cases hnamed : c = '\n' ∨ c = '\r' ∨ c = '\t' ∨ c = '\x08' ∨ c = '\x0c'
  · rcases hnamed with rfl | rfl | rfl | rfl | rfl <;> exact stringBody_letter rfl
  simp only [not_or] at hnamed
  obtain ⟨hn, hr, ht, hb, hf⟩ := hnamed
  simp only [escapedChar, if_neg hquote, if_neg hslash, if_neg hn, if_neg hr, if_neg ht, if_neg hb,
    if_neg hf]
  have hunit (hfirst : c.toNat < 0x10000) : stringBody opening (fuel + 1) (unitEscape c.toNat ++ after) =
      goOn [.char c] (stringBody opening fuel after) := by
    rw [stringBody_unitEscape hfirst hafter, Sign.ofUnit_toNat]
  by_cases hcontrol : c.toNat < 0x20
  · rw [if_pos hcontrol]
    exact hunit (by omega)
  rw [if_neg hcontrol]
  by_cases hplain : (!ascii || decide (c.toNat < 0x7f)) = true
  · rw [if_pos hplain]
    exact stringBody_plain hquote hslash (by omega)
  rw [if_neg hplain]
  rw [Bool.or_eq_true, not_or, Bool.not_eq_true', Bool.not_eq_false] at hplain
  have hfirst : c.toNat < 0x10000 := by
    rw [hplain.1, Bool.true_and, decide_eq_false_iff_not] at hone
    exact Nat.not_le.1 hone
  rw [if_pos hfirst]
  exact hunit hfirst

/-- A character beyond the first plane is written by its halves where the text is to be
ASCII. -/
theorem escapedChar_of_beyond {c : Char} (h : 0x10000 ≤ c.toNat) :
    escapedChar true c = unitEscape (0xd800 + (c.toNat - 0x10000) / 0x400) ++
      unitEscape (0xdc00 + (c.toNat - 0x10000) % 0x400) := by
  have hne {d : Char} (hd : d.toNat < 0x10000) : c ≠ d := by
    rintro rfl
    omega
  have hcontrol : ¬ c.toNat < 0x20 := by omega
  have hplain : ¬ (!true || decide (c.toNat < 0x7f)) = true := by simpa using by omega
  have hfirst : ¬ c.toNat < 0x10000 := by omega
  rw [escapedChar, if_neg (hne (by decide)), if_neg (hne (by decide)), if_neg (hne (by decide)),
    if_neg (hne (by decide)), if_neg (hne (by decide)), if_neg (hne (by decide)),
    if_neg (hne (by decide)), if_neg hcontrol, if_neg hplain, if_neg hfirst]

/-- A sign is read as the signs that it was spelled by. Each of these takes a step. -/
theorem stringBody_escapedSign (ascii : Bool) (s : Sign) (hafter : after ≠ []) :
    stringBody opening (fuel + (spelled ascii s).length) (escapedSign ascii s ++ after) =
      goOn (spelled ascii s) (stringBody opening fuel after) := by
  cases s with
  | half h =>
    have hlt : h.unit < 0x10000 := Nat.lt_of_le_of_lt h.unit_bounds.2 (by decide)
    show stringBody opening (fuel + 1) (unitEscape h.unit ++ after) = goOn [.half h] _
    rw [stringBody_unitEscape hlt hafter, Sign.ofUnit_unit]
  | char c =>
    rw [spelled, escapedSign]
    -- Only a character beyond the plane takes two escapes, hence two units of fuel.
    cases hbeyond : ascii && decide (0x10000 ≤ c.toNat) with
    | false => exact stringBody_escapedChar hbeyond hafter
    | true =>
      rw [Bool.and_eq_true, decide_eq_true_eq] at hbeyond
      obtain ⟨rfl, hbeyond⟩ := hbeyond
      have hlast := toNat_lt c
      have hsecond : unitEscape (0xdc00 + (c.toNat - 0x10000) % 0x400) ++ after ≠ [] :=
        List.cons_ne_nil _ _
      rw [escapedChar_of_beyond hbeyond, List.append_assoc]
      show stringBody opening (fuel + 1 + 1) _ = goOn [_, _] _
      rw [stringBody_unitEscape (by omega) hsecond, stringBody_unitEscape (by omega) hafter,
        goOn_append]
      rfl

/-! ### A whole text -/

/-- Nothing is written as nothing. -/
theorem length_escapedChar_pos (ascii : Bool) (c : Char) : 0 < (escapedChar ascii c).length := by
  unfold escapedChar unitEscape
  repeat' split
  all_goals simp

/-- A sign is spelled in no more signs than it is written in. -/
theorem length_spelled_le (ascii : Bool) (s : Sign) :
    (spelled ascii s).length ≤ (escapedSign ascii s).length := by
  cases s with
  | half h => exact Nat.le_add_left 1 _
  | char c =>
    rw [spelled]
    cases hbeyond : ascii && decide (0x10000 ≤ c.toNat) with
    | false => exact length_escapedChar_pos ascii c
    | true =>
      rw [Bool.and_eq_true, decide_eq_true_eq] at hbeyond
      obtain ⟨rfl, hbeyond⟩ := hbeyond
      rw [escapedSign, escapedChar_of_beyond hbeyond]
      exact Nat.le_add_left 2 _

/-- So is a row of signs, which bounds the fuel. -/
theorem length_flatMap_spelled_le (ascii : Bool) (signs : List Sign) :
    (signs.flatMap (spelled ascii)).length ≤ (signs.flatMap (escapedSign ascii)).length := by
  induction signs with
  | nil => exact Nat.zero_le _
  | cons s rest ih =>
    have hfirst := length_spelled_le ascii s
    simp only [List.flatMap_cons, List.length_append]
    omega

/-- A text is read up to the quote that closes it, where there are more steps
than signs. -/
theorem stringBody_written (ascii : Bool) (signs : List Sign)
    (h : (signs.flatMap (spelled ascii)).length < fuel) :
    stringBody opening fuel (signs.flatMap (escapedSign ascii) ++ '"' :: after) =
      .ok (signs.flatMap (spelled ascii), after) := by
  induction signs generalizing fuel with
  | nil =>
    obtain ⟨steps, rfl⟩ := Nat.exists_eq_add_one_of_ne_zero (Nat.ne_of_gt h)
    rfl
  | cons s rest ih =>
    rw [List.flatMap_cons, List.length_append] at h
    obtain ⟨steps, rfl⟩ := Nat.exists_eq_add_of_le' (show (spelled ascii s).length ≤ fuel by omega)
    have hafter : rest.flatMap (escapedSign ascii) ++ '"' :: after ≠ [] := by simp
    rw [List.flatMap_cons, List.append_assoc, stringBody_escapedSign ascii s hafter,
      ih (by omega), List.flatMap_cons]
    rfl

/-- The halves that a character was spelled by are joined again. -/
theorem foldr_spelled (ascii : Bool) (s : Sign) (w : Wording)
    (h : Sign.areApart (s :: w.signs) = true) :
    ((spelled ascii s).foldr Wording.cons w).signs = s :: w.signs := by
  have hone : (Wording.cons s w).signs = s :: w.signs := Sign.push_of_apart h
  cases s with
  | half _ => exact hone
  | char c =>
    rw [spelled]
    cases hbeyond : ascii && decide (0x10000 ≤ c.toNat) with
    | false => exact hone
    | true =>
      rw [Bool.and_eq_true, decide_eq_true_eq] at hbeyond
      -- A character beyond the plane is spelled as a pair, and the pair makes the character
      -- again.
      have hlast := toNat_lt c
      have hhigh : (c.toNat - 0x10000) / 0x400 < 0x400 := by omega
      have hlow : (c.toNat - 0x10000) % 0x400 < 0x400 := Nat.mod_lt _ (by decide)
      have hpair : Half.pair ⟨_, hhigh⟩ ⟨_, hlow⟩ = c := by
        have hsum : 0x10000 + (c.toNat - 0x10000) / 0x400 * 0x400 + (c.toNat - 0x10000) % 0x400 =
            c.toNat := by omega
        show Char.ofNat (0x10000 + (c.toNat - 0x10000) / 0x400 * 0x400 +
          (c.toNat - 0x10000) % 0x400) = c
        rw [hsum, Char.ofNat_toNat]
      rw [show Sign.ofUnit (0xd800 + (c.toNat - 0x10000) / 0x400) = .half (.high ⟨_, hhigh⟩) from
          Sign.ofUnit_unit (.high ⟨_, hhigh⟩),
        show Sign.ofUnit (0xdc00 + (c.toNat - 0x10000) % 0x400) = .half (.low ⟨_, hlow⟩) from
          Sign.ofUnit_unit (.low ⟨_, hlow⟩)]
      show Sign.char (Half.pair ⟨_, hhigh⟩ ⟨_, hlow⟩) :: w.signs = _
      rw [hpair]

/-- What a text was spelled by makes up the text. -/
theorem ofSigns_spelled (ascii : Bool) (w : Wording) :
    Wording.ofSigns (w.signs.flatMap (spelled ascii)) = w := by
  have hsigns (signs : List Sign) (h : Sign.areApart signs = true) :
      (Wording.ofSigns (signs.flatMap (spelled ascii))).signs = signs := by
    induction signs with
    | nil => rfl
    | cons s rest ih =>
      have hrest := ih (Sign.areApart_cons.1 h).2
      unfold Wording.ofSigns at hrest ⊢
      rw [List.flatMap_cons, List.foldr_append, foldr_spelled, hrest]
      rw [hrest]
      exact h
  exact Wording.ext (hsigns w.signs w.apart)

/-- A text that was written is read back. -/
theorem string_written (ascii : Bool) (w : Wording) :
    string (w.signs.flatMap (escapedSign ascii) ++ '"' :: after) = .ok (w, after) := by
  have hle := length_flatMap_spelled_le ascii w.signs
  have hlt : (w.signs.flatMap (spelled ascii)).length <
      (w.signs.flatMap (escapedSign ascii) ++ '"' :: after).length + 1 := by
    rw [List.length_append]
    omega
  unfold string
  rw [stringBody_written ascii w.signs hlt]
  show Except.ok (Wording.ofSigns _, after) = _
  rw [ofSigns_spelled]

end

end Json.Decoder

/-! ### Whole numbers -/

namespace Json.Decoder

/-- What follows a number does not go on with it. -/
def Ends (rest : List Char) : Prop :=
  ∀ c ∈ rest.head?, Text.isAsciiDigit c = false ∧ c ≠ '.' ∧ c ≠ 'e' ∧ c ≠ 'E'

section
variable {rest : List Char}

/-- The digits of a number are read up to its end. -/
theorem wholeDigits?_toDigits (n : Nat) (h : Ends rest) :
    wholeDigits? (Nat.toDigits 10 n ++ rest) =
      some ((Nat.toDigits 10 n).map (·.toNat - 0x30), rest) := by
  rcases Nat.eq_zero_or_pos n with rfl | hpos
  · rfl
  · -- Zero apart, a numeral does not begin with a zero.
    obtain ⟨c, others, hdigits, hzero⟩ := Text.exists_toDigits_eq_cons hpos
    have hall : ∀ d ∈ c :: others, Text.isAsciiDigit d = true := by
      rw [← hdigits]
      exact fun d hd => Text.isAsciiDigit_of_mem_toDigits hd
    have htake : rest.takeWhile Text.isAsciiDigit = [] := by
      cases rest with
      | nil => rfl
      | cons d more => rw [List.takeWhile_cons, (h d rfl).1]; rfl
    have hdrop : rest.dropWhile Text.isAsciiDigit = rest := by
      cases rest with
      | nil => rfl
      | cons d more => rw [List.dropWhile_cons, (h d rfl).1]; rfl
    rw [hdigits]
    show wholeDigits? (c :: (others ++ rest)) = _
    rw [wholeDigits?, if_pos (hall c List.mem_cons_self), digits, ← List.cons_append,
      List.takeWhile_append_of_pos hall, List.dropWhile_append_of_pos hall, htake, hdrop,
      List.append_nil]
    exact hzero

/-- A whole number has no fraction. -/
theorem fractionDigits_of_ends (h : Ends rest) : fractionDigits rest = ([], rest) := by
  unfold fractionDigits
  split
  · exact absurd rfl (h '.' rfl).2.1
  · rfl

/-- A whole number has no exponent. -/
theorem exponent?_of_ends (h : Ends rest) : exponent? rest = none := by
  cases rest with
  | nil => rfl
  | cons c more =>
    obtain ⟨-, -, he, hE⟩ := h c rfl
    simp only [exponent?, he, hE, decide_false, Bool.or_self, Bool.false_eq_true, if_false]

/-- A number that is whole, with its sign in front. -/
theorem number?_of_whole {negative : Bool} {cs unsigned : List Char} {whole : List Nat} {n : Nat}
    (hsign : (negative = true ∧ cs = '-' :: unsigned) ∨
      (negative = false ∧ cs = unsigned ∧ cs.head? ≠ some '-'))
    (hwhole : wholeDigits? unsigned = some (whole, rest)) (hn : Numeral.ofDigits whole = .ok n)
    (h : Ends rest) :
    number? cs = some (.ok (.int (if negative then -(n : Int) else n), rest)) := by
  have hfraction := fractionDigits_of_ends h
  have hexponent := exponent?_of_ends h
  unfold number?
  -- The reader takes the sign off first, if there is one.
  rcases hsign with ⟨rfl, rfl⟩ | ⟨rfl, rfl, hne⟩
  · simp only [hwhole, hfraction, hexponent, hn, Option.bind_eq_bind, Option.bind_some]
    rfl
  · split
    next negative unsigned hsplit =>
      split at hsplit
      · exact absurd rfl hne
      · cases hsplit
        simp only [hwhole, hfraction, hexponent, hn, Option.bind_eq_bind, Option.bind_some]
        rfl

/-- The names of values start with letters, behind a minus or not. -/
theorem after?_eq_none_of_digit {c : Char} (hc : Text.isAsciiDigit c = true) (more : List Char) :
    ∀ word ∈ namedValues.map Prod.fst,
      after? word.toList (c :: more) = none ∧ after? word.toList ('-' :: c :: more) = none := by
  -- Every named value begins with a letter, behind a sign at most.
  have hne {d : Char} (hd : Text.isAsciiDigit d = false) : d ≠ c := by
    rintro rfl
    rw [hd] at hc
    cases hc
  have hn : 'n' ≠ c := hne rfl
  have ht : 't' ≠ c := hne rfl
  have hf : 'f' ≠ c := hne rfl
  have hN : 'N' ≠ c := hne rfl
  have hI : 'I' ≠ c := hne rfl
  have hdash : '-' ≠ c := hne rfl
  show ∀ word ∈ ["null", "true", "false", "NaN", "Infinity", "-Infinity"], _
  simp [after?, hn, ht, hf, hN, hI, hdash]

/-- Where no name of a value stands in front, a number must. -/
theorem scalar_of_number {cs : List Char} {n : Number}
    (hname : ∀ word ∈ namedValues.map Prod.fst, after? word.toList cs = none)
    (hread : number? cs = some (.ok (n, rest))) : scalar cs = .ok (.number n, rest) := by
  unfold scalar
  split
  · next found hfound =>
    -- No named value stands in front.
    obtain ⟨⟨word, v⟩, hmem, hafter⟩ := List.exists_of_findSome?_eq_some hfound
    have hnone : after? word.toList cs = none := hname word (List.mem_map_of_mem hmem)
    simp only [hnone] at hafter
    cases hafter
  · rw [hread]

/-- A whole number is read, where nothing goes on with it. -/
theorem scalar_int (n : Int) (hn : (Nat.toDigits 10 n.natAbs).length ≤ Numeral.maxDigits)
    (h : Ends rest) : scalar ((toString n).toList ++ rest) = .ok (.number (.int n), rest) := by
  have hwhole := wholeDigits?_toDigits n.natAbs h
  have hvalue := Numeral.ofDigits_toDigits hn
  obtain ⟨c, more, hdigits⟩ : ∃ c more, Nat.toDigits 10 n.natAbs = c :: more :=
    List.exists_cons_of_ne_nil Nat.toDigits_ne_nil
  have hc : Text.isAsciiDigit c = true :=
    Text.isAsciiDigit_of_mem_toDigits (hdigits ▸ List.mem_cons_self)
  -- The names of values are tried before numbers, and fail at the first digit.
  have hname := after?_eq_none_of_digit hc (more ++ rest)
  rw [hdigits] at hwhole hvalue
  cases n with
  | ofNat m =>
    have hdash : (c :: more ++ rest).head? ≠ some '-' := by
      intro heq
      cases heq
      cases hc
    rw [Text.toList_toString_ofNat, show Nat.toDigits 10 m = c :: more from hdigits]
    exact scalar_of_number (fun word hw => (hname word hw).1)
      (number?_of_whole (.inr ⟨rfl, rfl, hdash⟩) hwhole hvalue h)
  | negSucc m =>
    rw [Text.toList_toString_negSucc, show Nat.toDigits 10 (m + 1) = c :: more from hdigits]
    exact scalar_of_number (fun word hw => (hname word hw).2)
      (number?_of_whole (.inl ⟨rfl, rfl⟩) hwhole hvalue h)

end

end Json.Decoder

end QueryGuard
