import Mathlib.Data.List.TakeWhile
import QueryGuard.Proofs.Text.DecimalDigit
import QueryGuard.Proofs.Time.Calendar
import QueryGuard.Time.Iso

/-!
# `QueryGuard.Proofs.Time.Iso`: dates and times that were written are read back

A time stamp is a date, a `T`, the time of day with perhaps a fraction of a second, and
the zone of the clock that shows it (`DateTime.stampText`). The reader has to find its
way without knowing how long the parts are: the date by its length, the zone by its
sign, the fields of a time two digits at a time.

Each part is read back where the reader takes it up (`days?_dateText`,
`clock?_hmsText`, `offset?_signed`), and so the whole stamp is (`parse?_stampText`). A
fraction stands for its first six digits, with zeros added to fewer
(`DateTime.FractionOf`); what comes after them is dropped.
-/

set_option autoImplicit false

namespace QueryGuard

namespace DateTime

/-- The zone of a clock: universal time by its letter, or less than a day of minutes
ahead of it or behind it. -/
inductive Zone where
  | zulu
  | ahead (minutes : Fin 1440)
  | behind (minutes : Fin 1440)

/-- How far the clocks of a zone are ahead of universal time, in microseconds. -/
def Zone.micros : Zone → Int
  | .zulu => 0
  | .ahead minutes => minutes * 60000000
  | .behind minutes => -(minutes * 60000000)

/-- Hours and minutes. -/
def hmText (minutes : Nat) : List Char :=
  Text.paddedDigits 2 (minutes / 60) ++ ':' :: Text.paddedDigits 2 (minutes % 60)

/-- Hours, minutes and seconds. -/
def hmsText (seconds : Nat) : List Char :=
  hmText (seconds / 60) ++ ':' :: Text.paddedDigits 2 (seconds % 60)

/-- A zone as it is written. -/
def Zone.text : Zone → List Char
  | .zulu => ['Z']
  | .ahead minutes => '+' :: hmText minutes
  | .behind minutes => '-' :: hmText minutes

/-- The zone as an offset: a `Z` stands for one of no minutes. -/
def Zone.signed : Zone → Zone
  | .zulu => .ahead 0
  | zone => zone

/-- The fractions that stand for a number of microseconds: none for zero, and otherwise
digits of which the first six, with zeros added to fewer, are those of the number. -/
inductive FractionOf (micros : Nat) : List Char → Prop
  | absent (none : micros = 0) : FractionOf micros []
  | given {digits : List Char} (ascii : ∀ c ∈ digits, Text.isAsciiDigit c = true)
      (begun : digits ≠ [])
      (leading : (digits ++ List.replicate 6 '0').take 6 = Text.paddedDigits 6 micros) :
      FractionOf micros ('.' :: digits)

/-- What a clock shows that is so many microseconds into the calendar, with a fraction
of a second. -/
def clockFace (wall : Nat) (fraction : List Char) : List Char :=
  dateText (Calendar.Date.ofDays (wall / dayMicros)) ++
    'T' :: (hmsText (wall % dayMicros / 1000000) ++ fraction)

/-- The time stamp of a clock: what it shows, and its zone. -/
def stampText (wall : Nat) (fraction : List Char) (zone : Zone) : List Char :=
  clockFace wall fraction ++ zone.text

end DateTime

namespace Iso

open DateTime

/-! ### Digits -/

/-- Digits of the width that is asked for are read off and the rest is left. -/
theorem fixedDigits?_append {width : Nat} {ds : List Char} (hlength : ds.length = width)
    (hdigits : ∀ c ∈ ds, Text.isAsciiDigit c = true) (rest : List Char) :
    fixedDigits? width (ds ++ rest) =
      some (Text.numberOfDigits (ds.map (·.toNat - 0x30)), rest) := by
  have htake : (ds ++ rest).take width = ds := by
    rw [← hlength, List.take_left]
  have hdrop : (ds ++ rest).drop width = rest := by
    rw [← hlength, List.drop_left]
  have hall : ds.all Text.isAsciiDigit = true := List.all_eq_true.2 hdigits
  unfold fixedDigits?
  simp only [htake, hdrop, hlength, hall, decide_true, Bool.and_self, if_true]

/-- A number in so many places is read from them. -/
theorem fixedDigits?_paddedDigits {width n : Nat} (h : n < 10 ^ width) (rest : List Char) :
    fixedDigits? width (Text.paddedDigits width n ++ rest) = some (n, rest) := by
  rw [fixedDigits?_append (Text.length_paddedDigits width n)
    (fun _ hc => Text.isAsciiDigit_of_mem_paddedDigits hc), Text.numberOfDigits_paddedDigits,
    Nat.mod_eq_of_lt h]

/-- A number that is written in places starts with a digit. -/
theorem head_paddedDigits {width n : Nat} {c : Char} {rest tail : List Char}
    (h : Text.paddedDigits (width + 1) n ++ rest = c :: tail) : Text.isAsciiDigit c = true := by
  obtain ⟨d, ds, hdigits⟩ := List.exists_cons_of_ne_nil (Text.paddedDigits_ne_nil width n)
  rw [hdigits, List.cons_append] at h
  cases h
  exact Text.isAsciiDigit_of_mem_paddedDigits (hdigits ▸ List.mem_cons_self)

/-! ### Dates -/

/-- A digit is no punctuation. -/
theorem ne_of_isAsciiDigit {c d : Char} (hc : Text.isAsciiDigit c = true)
    (hd : Text.isAsciiDigit d = false) : c ≠ d := by
  rintro rfl
  rw [hc] at hd
  cases hd

/-- A date takes ten characters. -/
theorem length_dateText (d : Calendar.Date) : (dateText d).length = 10 := rfl

/-- A calendar date with dashes is ten characters long. -/
theorem dateLength?_dateText (d : Calendar.Date) (rest : List Char) :
    dateLength? (dateText d ++ rest) = some 10 := by
  have hlength : (dateText d ++ rest).length = 10 + rest.length := by
    rw [List.length_append, length_dateText]
  have hdash : charAt (dateText d ++ rest) 4 (· = '-') = true := rfl
  have hmonth : charAt (dateText d ++ rest) 5 (· = 'W') = false := by
    show decide (Nat.digitChar (d.month / 10 % 10) = 'W') = false
    have hdigit := Text.isAsciiDigit_digitChar (Nat.mod_lt (d.month / 10) (show 0 < 10 by decide))
    exact decide_eq_false (ne_of_isAsciiDigit hdigit rfl)
  unfold dateLength?
  rw [if_neg (by omega), if_neg (by omega), if_pos hdash, hmonth]
  rfl

/-- A date of the calendar is read as its day. -/
theorem days?_dateText {d : Calendar.Date} (h : d.isValid = true) :
    days? (dateText d) = some d.toDays := by
  have hvalid := h
  simp only [Calendar.Date.isValid, Bool.and_eq_true, decide_eq_true_eq] at h
  obtain ⟨⟨⟨⟨⟨-, hyear⟩, -⟩, hmonth⟩, -⟩, hday⟩ := h
  have hyear' : d.year < 10 ^ 4 := Nat.lt_of_le_of_lt hyear (by decide)
  have hday' : d.day < 10 ^ 2 := by
    refine Nat.lt_of_le_of_lt hday ?_
    unfold Calendar.daysInMonth
    split
    · split <;> decide
    all_goals decide
  have hfirst : fixedDigits? 4 (dateText d) = some (d.year, '-' :: (Text.paddedDigits 2 d.month ++
      '-' :: Text.paddedDigits 2 d.day)) := by
    unfold dateText
    rw [List.append_assoc]
    exact fixedDigits?_paddedDigits hyear' _
  have hsecond := fixedDigits?_paddedDigits (show d.month < 10 ^ 2 by omega)
    ('-' :: Text.paddedDigits 2 d.day)
  have hthird : fixedDigits? 2 (Text.paddedDigits 2 d.day) = some (d.day, []) := by
    have hread := fixedDigits?_paddedDigits hday' []
    rw [List.append_nil] at hread
    exact hread
  have hdash : charAt ('-' :: (Text.paddedDigits 2 d.month ++ '-' :: Text.paddedDigits 2 d.day)) 0
      (· = '-') = true := rfl
  unfold days?
  simp only [hfirst, hdash, Option.bind_eq_bind, Option.bind_some, if_true, List.drop_succ_cons,
    List.drop_zero]
  -- A month begins with a digit, so that it is not taken for a week.
  split
  · next rest hweek => exact absurd rfl (ne_of_isAsciiDigit (head_paddedDigits hweek) rfl)
  · show (fixedDigits? 2 (Text.paddedDigits 2 d.month ++ '-' :: Text.paddedDigits 2 d.day)).bind _
      = _
    rw [hsecond]
    show (fixedDigits? 2 (Text.paddedDigits 2 d.day)).bind _ = _
    rw [hthird]
    show (if d.isValid = true then some () else none).bind (fun _ => some d.toDays) = _
    rw [if_pos hvalid]
    rfl

/-! ### Times of day -/

/-- A character that more follow is not the left-over of a time. -/
theorem not_leftOver {rest : List Char} (hrest : rest ≠ []) (c : Char) :
    ¬ (rest.isEmpty && c.toNat < 0x80) = true := by
  cases rest with
  | nil => exact absurd rfl hrest
  | cons d rest => exact Bool.false_ne_true

/-- Between two fields of a time stands a colon. -/
theorem clockFrom_colon {colons : Bool} {more : Nat} {fields : List Nat} {n : Nat}
    {rest : List Char} (hn : n < 100) (hcolons : fields = [] ∨ colons = true) (hrest : rest ≠ []) :
    clockFrom colons (more + 1) fields (Text.paddedDigits 2 n ++ ':' :: rest) =
      clockFrom true more (fields ++ [n]) rest := by
  have hread := fixedDigits?_paddedDigits (show n < 10 ^ 2 from hn) (':' :: rest)
  -- The character behind the hour decides on colons, and a later field keeps to that.
  have hmode : (if (fields ++ [n]).length = 1 then charAt (':' :: rest) 0 (· = ':') else colons) =
      true := by
    rcases hcolons with rfl | rfl
    · rfl
    · split <;> rfl
  rw [clockFrom, hread]
  simp only [Option.bind_eq_bind, Option.bind_some, hmode, if_neg (not_leftOver hrest _)]
  exact if_pos rfl

/-- A time may end with any field. -/
theorem clockFrom_end {colons : Bool} {more : Nat} {fields : List Nat} {n : Nat} (hn : n < 100) :
    clockFrom colons (more + 1) fields (Text.paddedDigits 2 n) = some ⟨fields ++ [n], 0, []⟩ := by
  have hread := fixedDigits?_paddedDigits (show n < 10 ^ 2 from hn) []
  rw [List.append_nil] at hread
  rw [clockFrom, hread]
  rfl

/-- A fraction ends a time. -/
theorem clockFrom_fraction {more : Nat} {fields : List Nat} {n micros : Nat} {digits : List Char}
    (hn : n < 100) (hfields : fields ≠ []) (hdigits : digits ≠ [])
    (hfraction : fraction? digits = some (micros, [])) :
    clockFrom true (more + 1) fields (Text.paddedDigits 2 n ++ '.' :: digits) =
      some ⟨fields ++ [n], micros, []⟩ := by
  have hread := fixedDigits?_paddedDigits (show n < 10 ^ 2 from hn) ('.' :: digits)
  have hmode : (if (fields ++ [n]).length = 1 then charAt ('.' :: digits) 0 (· = ':') else true) =
      true := by
    have hlength := List.length_pos_iff.2 hfields
    rw [if_neg (by rw [List.length_append, List.length_singleton]; omega)]
  rw [clockFrom, hread]
  simp only [Option.bind_eq_bind, Option.bind_some, hmode, if_neg (not_leftOver hdigits _)]
  show (fraction? digits).bind _ = _
  rw [hfraction]
  rfl

/-- A fraction is read as the microseconds it stands for, to its end. -/
theorem fraction?_of_leading {digits : List Char} {micros : Nat} (hmicros : micros < 10 ^ 6)
    (ascii : ∀ c ∈ digits, Text.isAsciiDigit c = true) (begun : digits ≠ [])
    (leading : (digits ++ List.replicate 6 '0').take 6 = Text.paddedDigits 6 micros) :
    fraction? digits = some (micros, []) := by
  have hpos := List.length_pos_iff.2 begun
  generalize hwidth : min digits.length 6 = width
  have hread : fixedDigits? width digits = some
      (Text.numberOfDigits ((digits.take width).map (·.toNat - 0x30)), digits.drop width) := by
    have hlength : (digits.take width).length = width := by
      rw [List.length_take]
      omega
    have happend := fixedDigits?_append hlength
      (fun c hc => ascii c (List.mem_of_mem_take hc)) (digits.drop width)
    rw [List.take_append_drop] at happend
    exact happend
  have hdrop : (digits.drop width).dropWhile Text.isAsciiDigit = [] :=
    List.dropWhile_eq_nil_iff.2 fun c hc => ascii c (List.mem_of_mem_drop hc)
  -- The places that the text lacks are the zeros at the end of the six.
  have hfront : Text.paddedDigits 6 micros =
      digits.take width ++ List.replicate (6 - width) '0' := by
    have htake : digits.take 6 = digits.take width := List.take_eq_take_iff.2 (by omega)
    rw [← leading, List.take_append, htake, List.take_replicate]
    congr 2
    omega
  have hvalue : Text.numberOfDigits ((digits.take width).map (·.toNat - 0x30)) * 10 ^ (6 - width) =
      micros := by
    have hnumber := Text.numberOfDigits_paddedDigits 6 micros
    rw [hfront, List.map_append, List.map_replicate, Nat.mod_eq_of_lt hmicros] at hnumber
    rw [← hnumber]
    exact (Text.numberOfDigits_append_zeros _ _).symm
  unfold fraction?
  simp only [hwidth]
  rw [if_neg (by omega), hread]
  show some (_ * Nat.pow 10 (6 - width), (digits.drop width).dropWhile Text.isAsciiDigit) = _
  rw [hdrop, Nat.pow_eq, hvalue]

/-- Hours and minutes are read back from their text. -/
theorem clock?_hmText {minutes : Nat} (h : minutes < 1440) :
    clock? (hmText minutes) = some (⟨minutes / 60, minutes % 60, 0, 0⟩, []) := by
  have hread : clockFrom false 3 [] (hmText minutes) =
      some ⟨[minutes / 60, minutes % 60], 0, []⟩ := by
    unfold hmText
    rw [clockFrom_colon (by omega) (.inl rfl) (Text.paddedDigits_ne_nil _ _),
      clockFrom_end (by omega)]
    rfl
  unfold clock?
  rw [hread]
  rfl

/-- A time of day is read field by field, and its fraction behind the last one. -/
theorem clock?_hmsText {seconds micros : Nat} {fraction : List Char} (h : seconds < 86400)
    (hmicros : micros < 10 ^ 6) (hfraction : FractionOf micros fraction) :
    clock? (hmsText seconds ++ fraction) =
      some (⟨seconds / 60 / 60, seconds / 60 % 60, seconds % 60, micros⟩, []) := by
  have hread : clockFrom false 3 [] (hmsText seconds ++ fraction) =
      some ⟨[seconds / 60 / 60, seconds / 60 % 60, seconds % 60], micros, []⟩ := by
    have hne : Text.paddedDigits 2 (seconds % 60) ++ fraction ≠ [] := fun hempty =>
      Text.paddedDigits_ne_nil _ _ (List.append_eq_nil_iff.1 hempty).1
    unfold hmsText hmText
    rw [List.append_assoc, List.append_assoc, List.cons_append, List.cons_append,
      clockFrom_colon (by omega) (.inl rfl) (by simp), clockFrom_colon (by omega) (.inr rfl) hne]
    -- Without a fraction the text ends at the seconds.
    cases hfraction with
    | absent none =>
      rw [List.append_nil, clockFrom_end (by omega), none]
      rfl
    | given ascii begun leading =>
      rw [clockFrom_fraction (by omega) (by simp) begun
        (fraction?_of_leading hmicros ascii begun leading)]
      rfl
  unfold clock?
  rw [hread]
  rfl

/-! ### Zones -/

/-- An offset is made of the time behind its sign. -/
theorem offset?_cons (sign : Char) (rest : List Char) :
    offset? (sign :: rest) = (clock? rest).bind fun read =>
      Option.bind (guard (isEnd read.2 = true)) fun _ =>
        if read.1.toMicros < 1000000 then pure 0
        else if dayMicros ≤ read.1.toMicros then none
        else pure (if sign = '-' then -(read.1.toMicros : Int) else read.1.toMicros) := rfl

/-- An offset is read as its minutes, with its sign. -/
theorem offset?_signed (sign : Char) {minutes : Nat} (h : minutes < 1440) :
    offset? (sign :: hmText minutes) =
      some (if sign = '-' then -((minutes : Int) * 60000000) else (minutes : Int) * 60000000) := by
  have hmicros : (⟨minutes / 60, minutes % 60, 0, 0⟩ : ClockFields).toMicros =
      minutes * 60000000 := by
    show ((minutes / 60 * 60 + minutes % 60) * 60 + 0) * 1000000 + 0 = minutes * 60000000
    omega
  have hday : ¬ dayMicros ≤ minutes * 60000000 := by
    unfold dayMicros
    omega
  have hcast : ((minutes * 60000000 : Nat) : Int) = (minutes : Int) * 60000000 := by omega
  have hend : (guard (isEnd [] = true) : Option Unit) = some () := rfl
  rw [offset?_cons, clock?_hmText h, Option.bind_some, hend, Option.bind_some, hmicros, if_neg hday,
    hcast]
  by_cases hzero : minutes = 0
  · -- No minutes are no offset, whatever their sign.
    rw [if_pos (by omega), hzero]
    split <;> rfl
  · rw [if_neg (by omega)]
    rfl

/-- A zone's offset is read back from its text. -/
theorem offset?_zone (zone : Zone) : offset? zone.signed.text = some zone.micros := by
  -- The zone letter is an offset of no minutes.
  cases zone with
  | zulu =>
    have hread := offset?_signed '+' (show 0 < 1440 by decide)
    rw [if_neg (by decide), Int.natCast_zero, Int.zero_mul] at hread
    exact hread
  | ahead minutes =>
    have hread := offset?_signed '+' minutes.isLt
    rw [if_neg (by decide)] at hread
    exact hread
  | behind minutes =>
    have hread := offset?_signed '-' minutes.isLt
    rw [if_pos rfl] at hread
    exact hread

/-! ### The characters of a stamp -/

/-- A further field brings its mark and digits. -/
theorem mem_field {front : List Char} {mark c : Char} {width n : Nat}
    (hfront : c ∈ front → Text.isAsciiDigit c = true ∨ c = mark)
    (h : c ∈ front ++ mark :: Text.paddedDigits width n) :
    Text.isAsciiDigit c = true ∨ c = mark := by
  rcases List.mem_append.1 h with hmem | hback
  · exact hfront hmem
  · rcases List.mem_cons.1 hback with hmark | hdigit
    · exact .inr hmark
    · exact .inl (Text.isAsciiDigit_of_mem_paddedDigits hdigit)

/-- The characters of hours and minutes. -/
theorem mem_hmText {minutes : Nat} {c : Char} (h : c ∈ hmText minutes) :
    Text.isAsciiDigit c = true ∨ c = ':' :=
  mem_field (fun hhours => .inl (Text.isAsciiDigit_of_mem_paddedDigits hhours)) h

/-- The characters of a time to the second. -/
theorem mem_hmsText {seconds : Nat} {c : Char} (h : c ∈ hmsText seconds) :
    Text.isAsciiDigit c = true ∨ c = ':' :=
  mem_field mem_hmText h

/-- The characters of a fraction. -/
theorem mem_fraction {micros : Nat} {fraction : List Char} (hfraction : FractionOf micros fraction)
    {c : Char} (h : c ∈ fraction) : Text.isAsciiDigit c = true ∨ c = '.' := by
  cases hfraction with
  | absent _ => cases h
  | given ascii _ _ =>
    rcases List.mem_cons.1 h with hpoint | hdigit
    · exact .inr hpoint
    · exact .inl (ascii c hdigit)

/-- The characters of a date. -/
theorem mem_dateText {d : Calendar.Date} {c : Char} (h : c ∈ dateText d) :
    Text.isAsciiDigit c = true ∨ c = '-' :=
  mem_field (mem_field fun hyear => .inl (Text.isAsciiDigit_of_mem_paddedDigits hyear)) h

/-- The characters of a date and time, none of which is the zone letter. -/
theorem mem_clockFace {wall micros : Nat} {fraction : List Char}
    (hfraction : FractionOf micros fraction) {c : Char} (h : c ∈ clockFace wall fraction) :
    Text.isAsciiDigit c = true ∨ c ∈ ['-', 'T', ':', '.'] := by
  unfold clockFace at h
  simp only [List.mem_append, List.mem_cons] at h
  rcases h with hdate | rfl | htime | hfrac
  · exact (mem_dateText hdate).imp_right fun hc => by simp [hc]
  · exact .inr (by decide)
  · exact (mem_hmsText htime).imp_right fun hc => by simp [hc]
  · exact (mem_fraction hfraction hfrac).imp_right fun hc => by simp [hc]

/-- The characters of a zone. -/
theorem mem_zoneText {zone : Zone} {c : Char} (h : c ∈ zone.text) :
    Text.isAsciiDigit c = true ∨ c ∈ ['Z', '+', '-', ':'] := by
  cases zone with
  | zulu => exact .inr (by simp [List.mem_singleton.1 h])
  | ahead minutes =>
    rcases List.mem_cons.1 h with rfl | htime
    · exact .inr (by decide)
    · exact (mem_hmText htime).imp_right fun hc => by simp [hc]
  | behind minutes =>
    rcases List.mem_cons.1 h with rfl | htime
    · exact .inr (by decide)
    · exact (mem_hmText htime).imp_right fun hc => by simp [hc]

/-- No sign stands in a time of day. -/
theorem isSign_of_mem {seconds micros : Nat} {fraction : List Char}
    (hfraction : FractionOf micros fraction) {c : Char} (h : c ∈ hmsText seconds ++ fraction) :
    isSign c = false := by
  have hdigit : Text.isAsciiDigit c = true → isSign c = false := by
    intro hc
    have hplus := ne_of_isAsciiDigit hc (show Text.isAsciiDigit '+' = false from rfl)
    have hminus := ne_of_isAsciiDigit hc (show Text.isAsciiDigit '-' = false from rfl)
    simp only [isSign, hplus, hminus, decide_false, Bool.or_self]
  -- Besides digits there are the colons of the time and the point of the fraction.
  rcases List.mem_append.1 h with htime | hfrac
  · rcases mem_hmsText htime with hc | rfl
    · exact hdigit hc
    · rfl
  · rcases mem_fraction hfraction hfrac with hc | rfl
    · exact hdigit hc
    · rfl

/-! ### The stamp -/

/-- A time is split at its first sign, and its two parts are read. -/
theorem time?_append {front rest : List Char} {sign : Char} (hfront : ∀ c ∈ front, isSign c = false)
    (hsign : isSign sign = true) {fields : ClockFields} {offset : Int}
    (hclock : clock? front = some (fields, [])) (hvalid : fields.isValid = true)
    (hoffset : offset? (sign :: rest) = some offset) :
    time? (front ++ sign :: rest) = some (fields.toMicros, some offset) := by
  have hplain : ∀ c ∈ front, (!isSign c) = true := by
    intro c hc
    rw [hfront c hc]
    rfl
  have hstop : ¬ (!isSign sign) = true := by
    rw [hsign]
    exact Bool.false_ne_true
  have htake : (front ++ sign :: rest).takeWhile (fun c => !isSign c) = front := by
    have hnone : (sign :: rest).takeWhile (fun c => !isSign c) = [] :=
      List.takeWhile_cons_of_neg hstop
    rw [List.takeWhile_append_of_pos hplain, hnone, List.append_nil]
  have hdrop : (front ++ sign :: rest).dropWhile (fun c => !isSign c) = sign :: rest := by
    rw [List.dropWhile_append_of_pos hplain]
    exact List.dropWhile_cons_of_neg hstop
  -- The reader with its steps in the open, so that each can be rewritten by what it reads.
  have hopen : time? (front ++ sign :: rest) =
      (clock? ((front ++ sign :: rest).takeWhile fun c => !isSign c)).bind fun read =>
        Option.bind (guard (read.1.isValid = true)) fun _ =>
          if ((front ++ sign :: rest).dropWhile fun c => !isSign c).isEmpty = true then
            Option.bind (guard (isEnd read.2 = true)) fun _ => pure (read.1.toMicros, none)
          else (offset? ((front ++ sign :: rest).dropWhile fun c => !isSign c)).bind fun offset =>
            pure (read.1.toMicros, some offset) := rfl
  have hguard : (guard (fields.isValid = true) : Option Unit) = some () := if_pos hvalid
  rw [hopen, htake, hdrop, hclock, Option.bind_some, hguard, Option.bind_some, hoffset]
  rfl

/-- A time of day with its zone is read as its microseconds and the offset. -/
theorem time?_zone {seconds micros : Nat} {fraction : List Char} (zone : Zone)
    (h : seconds < 86400) (hmicros : micros < 10 ^ 6) (hfraction : FractionOf micros fraction) :
    time? (hmsText seconds ++ fraction ++ zone.signed.text) =
      some (seconds * 1000000 + micros, some zone.micros) := by
  -- The zone letter has been expanded, so every zone begins with a sign.
  have hzone : ∃ sign rest, zone.signed.text = sign :: rest ∧ isSign sign = true := by
    cases zone with
    | zulu => exact ⟨_, _, rfl, rfl⟩
    | ahead minutes => exact ⟨_, _, rfl, rfl⟩
    | behind minutes => exact ⟨_, _, rfl, rfl⟩
  obtain ⟨sign, rest, htext, hsign⟩ := hzone
  have hoffset := offset?_zone zone
  have hclock := clock?_hmsText h hmicros hfraction
  have hvalid : (⟨seconds / 60 / 60, seconds / 60 % 60, seconds % 60, micros⟩ :
      ClockFields).isValid = true := by
    simp only [ClockFields.isValid, Bool.and_eq_true, decide_eq_true_eq]
    omega
  have hsum : (⟨seconds / 60 / 60, seconds / 60 % 60, seconds % 60, micros⟩ :
      ClockFields).toMicros = seconds * 1000000 + micros := by
    show ((seconds / 60 / 60 * 60 + seconds / 60 % 60) * 60 + seconds % 60) * 1000000 + micros = _
    omega
  rw [htext] at hoffset ⊢
  rw [time?_append (fun c hc => isSign_of_mem hfraction hc) hsign hclock hvalid hoffset, hsum]

/-- A date and a time, with any one character between them, are read as one. -/
theorem parse?_of_parts {cs date body : List Char} {c : Char} {length days micros : Nat}
    {offset : Option Int} (hlength : dateLength? cs = some length) (hfront : cs.take length = date)
    (hback : cs.drop length = c :: body) (hdate : days? date = some days)
    (htime : time? body = some (micros, offset)) :
    parse? cs = DateTime.of? ((days * dayMicros + micros : Nat) : Int) offset := by
  unfold parse?
  rw [hlength]
  show (days? (cs.take length)).bind _ = _
  rw [hfront, hdate, Option.bind_some, hback]
  show (time? body).bind _ = _
  rw [htime, Option.bind_some]

/-- A stamp is read as the point in time that its clock shows. -/
theorem parse?_stampText {wall : Nat} {fraction : List Char} (zone : Zone)
    (hwall : (wall : Int) < wallLimit) (hfraction : FractionOf (wall % 1000000) fraction) :
    parse? (stampText wall fraction zone.signed) = DateTime.of? wall (some zone.micros) := by
  have hsplit := Nat.div_add_mod' wall dayMicros
  have hday := Nat.mod_lt wall (show 0 < dayMicros by decide)
  have hdays : wall / dayMicros < Calendar.daysBeforeYear (Calendar.maxYear + 1) := by
    have hlimit : wallLimit =
        ((Calendar.daysBeforeYear (Calendar.maxYear + 1) * dayMicros : Nat) : Int) := by decide
    refine Nat.div_lt_of_lt_mul ?_
    rw [Nat.mul_comm]
    omega
  have hvalid := Calendar.isValid_ofDays hdays
  have hseconds : wall % dayMicros / 1000000 < 86400 := by
    unfold dayMicros at *
    omega
  have hmicros : wall % 1000000 < 10 ^ 6 := Nat.mod_lt _ (by decide)
  -- The fraction counts the microseconds of the day as it does those of the calendar.
  have hsum : wall / dayMicros * dayMicros +
      (wall % dayMicros / 1000000 * 1000000 + wall % 1000000) = wall := by
    have hparts := Nat.div_add_mod' (wall % dayMicros) 1000000
    have hsame : wall % dayMicros % 1000000 = wall % 1000000 :=
      Nat.mod_mod_of_dvd wall (by decide)
    omega
  have hdate := days?_dateText hvalid
  rw [Calendar.toDays_ofDays] at hdate
  have htime := time?_zone zone hseconds hmicros hfraction
  have htext : stampText wall fraction zone.signed =
      dateText (Calendar.Date.ofDays (wall / dayMicros)) ++
        'T' :: (hmsText (wall % dayMicros / 1000000) ++ fraction ++ zone.signed.text) := by
    rw [stampText, clockFace, List.append_assoc, List.cons_append]
  rw [htext, parse?_of_parts (dateLength?_dateText _ _) (List.take_left' (length_dateText _))
    (List.drop_left' (length_dateText _)) hdate htime, hsum]

end Iso

end QueryGuard
