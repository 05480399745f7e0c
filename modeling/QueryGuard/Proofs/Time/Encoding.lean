import QueryGuard.Proofs.Text.Blank
import QueryGuard.Proofs.Time.Iso
import QueryGuard.Proofs.Time.Timestamp

/-!
# `QueryGuard.Proofs.Time.Encoding`: times that were written are read back

A point of universal time can be written as a time stamp, on a clock of any zone that
shows it within the calendar, or as Unix seconds if it is a whole number of them
(`Timestamp.Encodes`). A text is tried as the present, as a time moved from it, as a
stamp and as Unix seconds, in this order, so that a reading that comes too early would
spoil one that comes later. It does not: what starts with a digit or a minus has no
capitals that spell the present (`Timestamp.parse_of_head`), and where no letter `T` is,
no stamp is looked for.

`Timestamp.parse_of_encodes` says that each of these texts is read as the point of time
that it was written for, and that whole seconds beyond the calendar are refused, however
they are written.
-/

set_option autoImplicit false

namespace QueryGuard

namespace DateTime

/-- An instant is formed from its own wall time and offset. -/
theorem of?_wall (t : DateTime) : of? t.wall t.offset = some t := dif_pos t.wall_inRange

end DateTime

namespace Timestamp

open DateTime

/-! ### Which reading is chosen -/

/-- A text is read as a time of its own if its capitals do not begin like the present. -/
theorem parse_of_head {text : String} {c : Char} {rest : List Char}
    (hhead : capitals text = c :: rest) (hc : c ≠ 'N') (now : DateTime) :
    parse (some text) now = absolute (some text) (letters text) (capitals text) := by
  have hpresent : nowWord.isPrefixOf (capitals text) = false := by
    rw [hhead]
    have hbeq : ('N' == c) = false := beq_false_of_ne hc.symm
    simp only [nowWord, List.isPrefixOf, hbeq, Bool.false_and]
  -- Whatever moves from now begins with the letter that this text does not begin with.
  refine parse_of_not_moves ?_ ?_ now
  · intro hnow
    rw [hhead] at hnow
    cases hnow
    exact hc rfl
  · intro sign tail hmoves
    have hprefix := hmoves.present
    rw [hpresent] at hprefix
    cases hprefix

/-- A date that is known to be in a zone is read into universal time. -/
theorem absolute_of_date {text : Option String} {cs upper : List Char} {t u : DateTime}
    (hmarked : upper.contains 'T' = true) (hread : Iso.parse? (expandZulu cs) = some t)
    (hknown : t.offset.isNone = false) (hutc : t.toUtc? = some u) :
    absolute text cs upper = .ok u := by
  unfold absolute
  rw [if_pos hmarked, hread]
  simp only [hknown, hutc, Bool.false_eq_true, if_false]

/-! ### Stamps -/

/-- No blank stands in a stamp. -/
theorem isBlankChar_of_mem_stampText {wall micros : Nat} {fraction : List Char} {zone : Zone}
    (hfraction : FractionOf micros fraction) {c : Char} (h : c ∈ stampText wall fraction zone) :
    Text.isBlankChar c = false := by
  have hmarks : (['-', 'T', ':', '.'] ++ ['Z', '+', '-', ':']).any Text.isBlankChar = false := rfl
  have hchar : Text.isAsciiDigit c = true ∨ c ∈ ['-', 'T', ':', '.'] ++ ['Z', '+', '-', ':'] := by
    rcases List.mem_append.1 h with hface | hzone
    · exact (Iso.mem_clockFace hfraction hface).imp_right (List.mem_append_left _)
    · exact (Iso.mem_zoneText hzone).imp_right (List.mem_append_right _)
  rcases hchar with hdigit | hmark
  · exact Text.isBlankChar_of_digitValue? (Text.digitValue?_of_isAsciiDigit hdigit)
  · exact Bool.eq_false_iff.2 (List.any_eq_false.1 hmarks c hmark)

/-- A text without the zone letter stays as it is. -/
theorem expandZulu_of_not_mem {cs : List Char} (h : 'Z' ∉ cs) : expandZulu cs = cs := by
  induction cs with
  | nil => rfl
  | cons c rest ih =>
    have hc : c ≠ 'Z' := fun heq => h (heq ▸ List.mem_cons_self)
    have hrest : 'Z' ∉ rest := fun hmem => h (List.mem_cons_of_mem _ hmem)
    unfold expandZulu at ih ⊢
    rw [List.flatMap_cons, if_neg hc, ih hrest]
    rfl

/-- Only the zone of a stamp has a `Z`, and it is written out as an offset. -/
theorem expandZulu_stampText {wall micros : Nat} {fraction : List Char} (zone : Zone)
    (hfraction : FractionOf micros fraction) :
    expandZulu (stampText wall fraction zone) = stampText wall fraction zone.signed := by
  -- The letter can stand in the zone only, so expanding it leaves the rest alone.
  have hface : 'Z' ∉ clockFace wall fraction := by
    intro hmem
    rcases Iso.mem_clockFace hfraction hmem with hdigit | hmark
    · exact absurd hdigit (by decide)
    · exact absurd hmark (by decide)
  have hsigned {sign : Char} (hsign : 'Z' ≠ sign) (minutes : Nat) :
      'Z' ∉ sign :: hmText minutes := by
    intro hmem
    rcases Iso.mem_hmText ((List.mem_cons.1 hmem).resolve_left hsign) with hdigit | hcolon
    · exact absurd hdigit (by decide)
    · exact absurd hcolon (by decide)
  have hzone : expandZulu zone.text = zone.signed.text := by
    cases zone with
    | zulu => rfl
    | ahead minutes => exact expandZulu_of_not_mem (hsigned (by decide) minutes)
    | behind minutes => exact expandZulu_of_not_mem (hsigned (by decide) minutes)
  have happend : expandZulu (clockFace wall fraction ++ zone.text) =
      expandZulu (clockFace wall fraction) ++ expandZulu zone.text := List.flatMap_append
  rw [stampText, happend, expandZulu_of_not_mem hface, hzone]
  rfl

/-- A stamp is read as the point of universal time at which its clock shows it. -/
theorem parse_stampText {t : DateTime} {wall : Nat} {fraction : List Char} (zone : Zone)
    (hutc : t.offset = some 0) (shown : (wall : Int) = t.wall + zone.micros)
    (inCalendar : (wall : Int) < wallLimit) (part : FractionOf (wall % 1000000) fraction)
    (now : DateTime) :
    parse (some (String.ofList (stampText wall fraction zone))) now = .ok t := by
  have hletters : letters (String.ofList (stampText wall fraction zone)) =
      stampText wall fraction zone := by
    rw [letters, String.toList_ofList]
    exact Text.trim_eq_self fun c hc => isBlankChar_of_mem_stampText part hc
  -- The stamp begins with a digit, so it is neither now nor a move from now.
  obtain ⟨c, rest, htext, hdigit⟩ : ∃ c rest, stampText wall fraction zone = c :: rest ∧
      Text.isAsciiDigit c = true :=
    ⟨_, _, rfl, Text.isAsciiDigit_digitChar (Nat.mod_lt _ (by decide))⟩
  have hhead : capitals (String.ofList (stampText wall fraction zone)) =
      c :: rest.flatMap Text.upperChar := by
    rw [capitals, hletters, htext, List.flatMap_cons,
      Text.upperChar_of_digitValue? (Text.digitValue?_of_isAsciiDigit hdigit)]
    rfl
  -- The letter between date and time sends it to the reader of dates.
  have hmarked : (capitals (String.ofList (stampText wall fraction zone))).contains 'T' = true := by
    have hmem : 'T' ∈ stampText wall fraction zone :=
      List.mem_append_left _ (List.mem_append_right _ List.mem_cons_self)
    rw [capitals, hletters]
    exact List.contains_iff_mem.2 (List.mem_flatMap.2 ⟨'T', hmem, by decide⟩)
  have hrange : (0 : Int) ≤ wall ∧ (wall : Int) < wallLimit := ⟨Int.natCast_nonneg wall, inCalendar⟩
  have hread : Iso.parse? (expandZulu (stampText wall fraction zone)) =
      some ⟨wall, some zone.micros, hrange⟩ := by
    rw [expandZulu_stampText zone part, Iso.parse?_stampText zone inCalendar part]
    exact dif_pos hrange
  -- Taking the zone's offset off the wall time gives the instant back.
  have hinstant : DateTime.toUtc? ⟨wall, some zone.micros, hrange⟩ = some t := by
    have hwall : (wall : Int) - zone.micros = t.wall := by omega
    show DateTime.of? ((wall : Int) - zone.micros) (some 0) = some t
    rw [hwall, ← hutc, of?_wall]
  rw [parse_of_head hhead (Iso.ne_of_isAsciiDigit hdigit rfl), hletters]
  exact absolute_of_date hmarked hread rfl hinstant

/-! ### Unix seconds -/

/-- A row of digits, behind a minus or not. -/
def withSign (negative : Bool) (digits : List Char) : List Char :=
  if negative then '-' :: digits else digits

/-- A number below zero or not. -/
def signedNumber (negative : Bool) (n : Nat) : Int := if negative then -(n : Int) else n

/-- A text writes a whole number: one digit at least, of whatever script, and perhaps a
minus before them. -/
inductive WritesInt (text : String) : Int → Prop
  | digits (negative : Bool) {cs : List Char} {values : List Nat}
      (spelled : text.toList = withSign negative cs) (begun : cs ≠ [])
      (amount : Text.Digits cs values) :
      WritesInt text (signedNumber negative (Text.numberOfDigits values))

section
variable {text : String} {negative : Bool} {cs : List Char} {values : List Nat}

/-- A sign and digits are neither trimmed nor raised to capitals. -/
theorem capitals_of_digits (spelled : text.toList = withSign negative cs)
    (amount : Text.Digits cs values) :
    letters text = withSign negative cs ∧ capitals text = withSign negative cs := by
  have hplain : ∀ c ∈ withSign negative cs,
      Text.isBlankChar c = false ∧ Text.upperChar c = [c] := by
    have hdigits : ∀ c ∈ cs, Text.isBlankChar c = false ∧ Text.upperChar c = [c] := by
      intro c hc
      obtain ⟨d, hd⟩ := amount.exists_digitValue? hc
      exact ⟨Text.isBlankChar_of_digitValue? hd, Text.upperChar_of_digitValue? hd⟩
    cases negative with
    | false => exact hdigits
    | true => exact List.forall_mem_cons.2 ⟨by decide, hdigits⟩
  have hletters : letters text = withSign negative cs := by
    rw [letters, spelled]
    exact Text.trim_eq_self fun c hc => (hplain c hc).1
  refine ⟨hletters, ?_⟩
  rw [capitals, hletters]
  -- Every character is its own capital, whatever the row is made of.
  generalize withSign negative cs = row at hplain
  induction row with
  | nil => rfl
  | cons c rest ih =>
    obtain ⟨hc, hrest⟩ := List.forall_mem_cons.1 hplain
    rw [List.flatMap_cons, hc.2, ih hrest, List.singleton_append]

/-- A sign before digits is read apart from them. -/
theorem unixDigits?_withSign (negative : Bool) (begun : cs ≠ [])
    (amount : Text.Digits cs values) :
    unixDigits? (withSign negative cs) = some (negative, values) := by
  have hsome : ¬ cs.isEmpty = true := fun hempty => begun (List.isEmpty_iff.1 hempty)
  cases negative with
  | true =>
    show (if cs.isEmpty then none else (cs.mapM Text.digitValue?).map (true, ·)) = _
    rw [if_neg hsome, amount.mapM_eq]
    rfl
  | false =>
    -- The reader looks for a minus first, and no digit is one.
    have hdash : '-' ∉ cs := amount.not_mem (by decide)
    show unixDigits? cs = some (false, values)
    unfold unixDigits?
    split
    next sign ds hsplit =>
      split at hsplit
      · exact absurd List.mem_cons_self hdash
      · cases hsplit
        rw [if_neg hsome, amount.mapM_eq]
        rfl

/-- Digits are read as Unix seconds. -/
theorem parse_of_digits (spelled : text.toList = withSign negative cs) (begun : cs ≠ [])
    (amount : Text.Digits cs values) (now : DateTime) :
    parse (some text) now = unix (some text) negative values := by
  obtain ⟨hletters, hcapitals⟩ := capitals_of_digits spelled amount
  -- A signed row of digits has no other character than the sign.
  have hother {c : Char} (hc : Text.digitValue? c = none) (hdash : c ≠ '-') :
      c ∉ withSign negative cs := by
    cases negative with
    | false => exact amount.not_mem hc
    | true =>
      intro hmem
      rcases List.mem_cons.1 hmem with heq | hdigit
      · exact hdash heq
      · exact amount.not_mem hc hdigit
  have hsome : withSign negative cs ≠ [] := by
    cases negative with
    | false => exact begun
    | true => exact List.cons_ne_nil _ _
  obtain ⟨c, rest, hhead⟩ := List.exists_cons_of_ne_nil hsome
  have hunmarked : ¬ (withSign negative cs).contains 'T' = true := fun hmem =>
    hother (by decide) (by decide) (List.contains_iff_mem.1 hmem)
  have hfirst : c ≠ 'N' := by
    rintro rfl
    exact hother (by decide) (by decide) (hhead ▸ List.mem_cons_self)
  -- So it has no letter of a date and none of now.
  rw [parse_of_head (hcapitals.trans hhead) hfirst, hletters, hcapitals]
  unfold absolute
  rw [if_neg hunmarked]
  simp only [unixDigits?_withSign negative begun amount]

end

/-! ### The calendar in Unix seconds -/

/-- The end of the calendar in microseconds. -/
theorem wallLimit_eq : wallLimit = 315537897600000000 := by decide

/-- The calendar in Unix seconds, its first and its last second. -/
theorem ofUnixMicros?_eq_none_iff {n : Int} :
    ofUnixMicros? (n * 1000000) = none ↔ ¬ (-62135596800 ≤ n ∧ n ≤ 253402300799) := by
  rw [ofUnixMicros?, of?_eq_none_iff, wallLimit_eq, unixEpoch]
  omega

/-- Whole seconds beyond the calendar are refused, and so is a number too long to
read. -/
theorem unix_of_outside {text : Option String} {negative : Bool} {values : List Nat}
    (h : ¬ (-62135596800 ≤ signedNumber negative (Text.numberOfDigits values) ∧
      signedNumber negative (Text.numberOfDigits values) ≤ 253402300799)) :
    unix text negative values = .error (.unixOutOfRange text) := by
  have hnone := ofUnixMicros?_eq_none_iff.2 h
  unfold signedNumber at hnone
  unfold unix
  -- A numeral too long to be read is refused with the same error.
  cases hnumber : Numeral.ofDigits values with
  | error fault => rfl
  | ok n =>
    have hvalue : n = Text.numberOfDigits values := by
      unfold Numeral.ofDigits at hnumber
      split at hnumber
      · cases hnumber
      · exact (Except.ok.inj hnumber).symm
    simp only [hvalue, hnone]

/-- A number of Unix seconds that is short enough to read is read as its instant. -/
theorem unix_of_readable {text : Option String} {negative : Bool} {values : List Nat} {t : DateTime}
    (hread : values.length ≤ Numeral.maxDigits)
    (h : ofUnixMicros? (signedNumber negative (Text.numberOfDigits values) * 1000000) = some t) :
    unix text negative values = .ok t := by
  have hnumber : Numeral.ofDigits values = .ok (Text.numberOfDigits values) :=
    if_neg (Nat.not_lt_of_le hread)
  unfold signedNumber at h
  unfold unix
  simp only [hnumber, h]

/-- A whole number in decimal writes itself, in as many digits as it has. -/
theorem toString_eq_withSign (n : Int) :
    ∃ negative, (toString n).toList = withSign negative (Nat.toDigits 10 n.natAbs) ∧
      n = signedNumber negative n.natAbs := by
  cases n with
  | ofNat m => exact ⟨false, Text.toList_toString_ofNat m, rfl⟩
  | negSucc m => exact ⟨true, Text.toList_toString_negSucc m, rfl⟩

/-- Unix seconds in decimal are read as their point of time. -/
theorem parse_toString {t : DateTime} (hutc : t.offset = some 0) {n : Int}
    (whole : t.wall = n * 1000000 + unixEpoch) (now : DateTime) :
    parse (some (toString n)) now = .ok t := by
  obtain ⟨negative, spelled, hsign⟩ := toString_eq_withSign n
  have amount : Text.Digits (Nat.toDigits 10 n.natAbs)
      ((Nat.toDigits 10 n.natAbs).map (·.toNat - 0x30)) :=
    Text.digits_of_ascii fun c hc => Text.isAsciiDigit_of_mem_toDigits hc
  -- The seconds of the calendar have twelve digits at most.
  have hshort : n.natAbs < 10 ^ 12 := by
    have hrange := t.wall_inRange
    rw [whole, wallLimit_eq, unixEpoch] at hrange
    omega
  have hread : ((Nat.toDigits 10 n.natAbs).map (·.toNat - 0x30)).length ≤ Numeral.maxDigits := by
    have hlength := (Nat.length_toDigits_le_iff (by decide) (by decide)).2 hshort
    rw [List.length_map]
    exact Nat.le_trans hlength (by decide)
  have hinstant : ofUnixMicros? (n * 1000000) = some t := by
    rw [ofUnixMicros?, ← whole, ← hutc, of?_wall]
  rw [parse_of_digits spelled Nat.toDigits_ne_nil amount]
  refine unix_of_readable hread ?_
  rw [Text.numberOfDigits_toDigits, ← hsign]
  exact hinstant

/-! ### The encodings -/

/-- The texts that encode a point of universal time: its time stamps, and its Unix
seconds if they are whole. A clock may be in any zone, as long as what it shows is
within the calendar. -/
inductive Encodes (t : DateTime) : String → Prop
  | stamp {wall : Nat} {fraction : List Char} (zone : Zone)
      (shown : (wall : Int) = t.wall + zone.micros) (inCalendar : (wall : Int) < wallLimit)
      (part : FractionOf (t.wall.toNat % 1000000) fraction) :
      Encodes t (String.ofList (stampText wall fraction zone))
  | unix (seconds : Int) (whole : t.wall = seconds * 1000000 + unixEpoch) :
      Encodes t (toString seconds)

/-- The clocks of all zones show the same fraction of a second. -/
theorem micros_of_shown {t : DateTime} {wall : Nat} {zone : Zone}
    (shown : (wall : Int) = t.wall + zone.micros) :
    wall % 1000000 = t.wall.toNat % 1000000 := by
  have hrange := t.wall_inRange
  cases zone with
  | zulu =>
    have hzone : Zone.zulu.micros = 0 := rfl
    omega
  | ahead minutes =>
    have hzone : (Zone.ahead minutes).micros = (minutes : Nat) * 60000000 := rfl
    omega
  | behind minutes =>
    have hzone : (Zone.behind minutes).micros = -((minutes : Nat) * 60000000) := rfl
    omega

/-- The fraction of a text, six digits where there is one. -/
def isoFraction (micros : Nat) : List Char :=
  if micros != 0 then '.' :: Text.paddedDigits 6 micros else []

/-- The fraction the formatter writes is one that the reader takes. -/
theorem fractionOf_isoFraction (micros : Nat) : FractionOf micros (isoFraction micros) := by
  unfold isoFraction
  by_cases hzero : micros = 0
  · rw [hzero]
    exact .absent rfl
  · rw [if_pos (bne_iff_ne.2 hzero)]
    exact .given (fun _ hc => Text.isAsciiDigit_of_mem_paddedDigits hc)
      (Text.paddedDigits_ne_nil _ _) (List.take_left' (Text.length_paddedDigits 6 micros))

/-- A clock's text is its seconds and then its fraction. -/
theorem clockText_eq (micros : Nat) :
    clockText micros true = hmsText (micros / 1000000) ++ isoFraction (micros % 1000000) := by
  have hhours : micros / 1000000 / 60 / 60 = micros / 1000000 / 3600 := Nat.div_div_eq_div_mul ..
  unfold clockText hmsText hmText isoFraction
  simp only [Bool.true_or, if_true, hhours]

/-- The text of a point of universal time is one of its stamps. -/
theorem encodes_isoText {t : DateTime} (hutc : t.offset = some 0) : Encodes t t.isoText := by
  have hrange := t.wall_inRange
  have hwall : (t.wall.toNat : Int) = t.wall := Int.toNat_of_nonneg hrange.1
  have hface : t.wallText = clockFace t.wall.toNat (isoFraction (t.wall.toNat % 1000000)) := by
    have hmicros : t.wall.toNat % dayMicros % 1000000 = t.wall.toNat % 1000000 :=
      Nat.mod_mod_of_dvd _ (by decide)
    unfold wallText clockFace
    simp only [clockText_eq, hmicros]
  -- The formatter's text is the stamp at offset zero.
  have htext : t.isoText = String.ofList
      (stampText t.wall.toNat (isoFraction (t.wall.toNat % 1000000)) (.ahead 0)) := by
    rw [isoText, hutc, hface]
    rfl
  have hzone : (Zone.ahead 0).micros = 0 := rfl
  rw [htext]
  exact .stamp (.ahead 0) (by omega) (by omega) (fractionOf_isoFraction _)

/-- Times decode what they encode: every text that encodes a point of universal time is
read as it, its own text among them, and whole seconds beyond the calendar are
refused. -/
theorem parse_of_encodes (now : DateTime) :
    (∀ t text, t.offset = some 0 → Encodes t text → parse (some text) now = .ok t) ∧
      (∀ t, t.offset = some 0 → parse (some t.isoText) now = .ok t) ∧
      ∀ text n, WritesInt text n → ¬ (-62135596800 ≤ n ∧ n ≤ 253402300799) →
        parse (some text) now = .error (.unixOutOfRange (some text)) := by
  have hencodes : ∀ t text, t.offset = some 0 → Encodes t text → parse (some text) now = .ok t := by
    intro t text hutc h
    -- An instant is written as a stamp in some zone, or as seconds.
    cases h with
    | stamp zone shown inCalendar part =>
      rw [← micros_of_shown shown] at part
      exact parse_stampText zone hutc shown inCalendar part now
    | unix seconds whole => exact parse_toString hutc whole now
  refine ⟨hencodes, ?_, ?_⟩
  · intro t hutc
    exact hencodes t t.isoText hutc (encodes_isoText hutc)
  · intro text n h houtside
    cases h with
    | digits negative spelled begun amount =>
      rw [parse_of_digits spelled begun amount, unix_of_outside houtside]

/-! ### Samples -/

/-- A quarter past midnight and half a second, on the leap day of 2024 in India, where
it is five hours and a half later than in universal time. -/
def leapDay : DateTime := ⟨63844742700500000, some 0, by decide⟩

/-- The stamp writes the Indian wall time, with its offset and one digit of the fraction. -/
theorem encodes_leapDay : Encodes leapDay "2024-02-29T00:15:00.5+05:30" := by
  have htext : String.ofList (stampText 63844762500500000 ['.', '5'] (.ahead 330)) =
      "2024-02-29T00:15:00.5+05:30" := by decide +kernel
  rw [← htext]
  have hpart : FractionOf 500000 ['.', '5'] :=
    .given (List.forall_mem_singleton.2 rfl) (List.cons_ne_nil _ _) rfl
  exact .stamp (.ahead 330) rfl (by decide) hpart

/-- One second before the calendar begins. -/
theorem writesInt_beforeCalendar : WritesInt "-62135596801" (-62135596801) := by
  have hdecimal : ∀ d ∈ [6, 2, 1, 3, 5, 5, 9, 6, 8, 0, 1], d < 10 := by decide
  exact .digits true rfl (List.cons_ne_nil _ _) (Text.digits_map_digitChar hdecimal)

/-- The stamp of another zone's leap day is the day before in universal time, and the
second before the calendar is refused. -/
theorem parse_leapDay :
    leapDay.offset = some 0 ∧ Encodes leapDay "2024-02-29T00:15:00.5+05:30" ∧
      parse (some "2024-02-29T00:15:00.5+05:30") leapDay = .ok leapDay ∧
      WritesInt "-62135596801" (-62135596801) ∧
      parse (some "-62135596801") leapDay =
        .error (.unixOutOfRange (some "-62135596801")) := by
  obtain ⟨hencodes, -, houtside⟩ := parse_of_encodes leapDay
  exact ⟨rfl, encodes_leapDay, hencodes _ _ rfl encodes_leapDay, writesInt_beforeCalendar,
    houtside _ _ writesInt_beforeCalendar (by decide)⟩

end Timestamp

end QueryGuard
