import Mathlib.Data.List.Basic
import QueryGuard.Proofs.Text.Blank
import QueryGuard.Proofs.Text.Case
import QueryGuard.Proofs.Time.Range

/-!
# `QueryGuard.Proofs.Time.Relative`: windows that are given relative to the present

A bound of a window may be left out or given as `NOW`, with a duration after or before
it (`TimeRange.Relative`). Both bounds are then offsets from the present: the end that is
left out is the present itself, and the start that is left out is an hour before the end,
wherever the end is.

`TimeRange.parse_of_relative` says that there is one present for both. The window runs
from one offset to the other if the offsets are in order, and is refused if they are not,
so that the order of the offsets alone decides. A window that is asked for again later is
therefore the same window, moved by the time that has passed.

The present may be on any clock, or on none. What is assumed is that the calendar has
both ends of the window; `TimeRange.Unreckonable` is about the others.
-/

set_option autoImplicit false

namespace QueryGuard

namespace Duration

/-- A duration is what its text says without the blanks around it. -/
theorem parse_of_trim_eq {text other : String} {d : Duration}
    (htrim : Text.trim other.toList = Text.trim text.toList) (h : parse (some text) = .ok d) :
    parse (some other) = .ok d := by
  unfold parse at h ⊢
  simp only [Option.getD_some, htrim] at h ⊢
  -- The text itself is part of the refusals, and of nothing else.
  cases hread : components? (Text.trim text.toList) with
  | none =>
    rw [hread] at h
    cases h
  | some components =>
    simp only [hread] at h ⊢
    cases hsum : addSeconds Double.zero components with
    | error e =>
      rw [hsum] at h
      cases h
    | ok seconds =>
      simp only [hsum, bind, Except.bind] at h ⊢
      cases hlength : ofSeconds? seconds with
      | none =>
        rw [hlength] at h
        cases h
      | some length =>
        rw [hlength] at h
        exact h

end Duration

namespace DateTime

/-- Adding nothing stays in the calendar. -/
theorem add?_zero (t : DateTime) : t.add? ⟨0⟩ = some t := by
  rw [add?, Int.add_zero]
  exact dif_pos t.wall_inRange

/-- It does not matter which of two moves is made first. -/
theorem add?_right_comm {now a later a' : DateTime} {d shift : Duration}
    (ha : now.add? d = some a) (hlater : now.add? shift = some later)
    (ha' : later.add? d = some a') : a.add? shift = some a' := by
  obtain ⟨hwall, hoffset⟩ := of?_eq_some ha
  obtain ⟨hlwall, hloffset⟩ := of?_eq_some hlater
  rw [← ha', add?, add?, hwall, hoffset, hlwall, hloffset, Int.add_right_comm]

/-- Subtracting is adding the opposite. -/
theorem sub?_eq_add? (t : DateTime) (d : Duration) : t.sub? d = t.add? ⟨-d.micros⟩ := by
  rw [sub?, add?, Int.sub_eq_add_neg]

end DateTime

/-! ### Times relative to the present -/

namespace Timestamp

/-- The text names the present, in capitals or not, moved by a number of
microseconds. -/
inductive FromNow (text : String) : Int → Prop
  | present (named : text.toList.map Char.toUpper = nowWord) : FromNow text 0
  | after {word : List Char} {length : String} {d : Duration}
      (named : word.map Char.toUpper = nowWord)
      (written : text.toList = word ++ '+' :: length.toList)
      (read : Duration.parse (some length) = .ok d) : FromNow text d.micros
  | before {word : List Char} {length : String} {d : Duration}
      (named : word.map Char.toUpper = nowWord)
      (written : text.toList = word ++ '-' :: length.toList)
      (read : Duration.parse (some length) = .ok d) : FromNow text (-d.micros)

variable {word : List Char}

/-- The letters of the present are not blank, and their capitals are those of ASCII. -/
theorem letter_of_named (h : word.map Char.toUpper = nowWord) :
    ∀ c ∈ word, Text.isBlankChar c = false ∧ Text.upperChar c = [c.toUpper] := by
  have hsmall : ∀ k ∈ nowWord, k.toNat < 128 := by simp [nowWord]
  intro c hc
  have hupper : c.toUpper ∈ nowWord := h ▸ List.mem_map_of_mem hc
  have hascii : c.toNat < 128 := by
    have hk := hsmall _ hupper
    rw [Text.toNat_toUpper] at hk
    split at hk <;> omega
  exact Text.forall_ascii (p := fun c => c.toUpper ∈ nowWord →
    Text.isBlankChar c = false ∧ Text.upperChar c = [c.toUpper]) (by decide +kernel) hascii hupper

/-- A word whose letters in capitals spell now does so in full Unicode capitals too. -/
theorem capitals_of_named (h : word.map Char.toUpper = nowWord) :
    word.flatMap Text.upperChar = nowWord := by
  rw [List.flatMap_congr fun c hc => (letter_of_named h c hc).2, ← List.map_eq_flatMap, h]

/-- So it is the present in any case. -/
theorem parse_of_named {text : String} (h : text.toList.map Char.toUpper = nowWord)
    (now : DateTime) : parse (some text) now = .ok now := by
  have htrim : Text.trim text.toList = text.toList :=
    Text.trim_eq_self fun c hc => (letter_of_named h c hc).1
  refine if_pos ?_
  rw [Option.getD_some, htrim]
  exact capitals_of_named h

/-- A sign behind the letters of the present is found, and what follows it is read
without its last blanks. -/
theorem moves_of_named {text : String} {sign : Char} {length : List Char}
    (h : word.map Char.toUpper = nowWord) (hsign : Iso.isSign sign = true)
    (written : text.toList = word ++ sign :: length) :
    Moves text sign (Text.trimEnd length) := by
  have hplain : Text.isBlankChar sign = false ∧ Text.upperChar sign = [sign] := by
    simp only [Iso.isSign, Bool.or_eq_true, decide_eq_true_eq] at hsign
    rcases hsign with rfl | rfl <;> decide +kernel
  have hletters : letters text = word ++ sign :: Text.trimEnd length := by
    -- The first letter keeps the front as it is, and the sign all that is before it.
    obtain ⟨c, rest, rfl⟩ : ∃ c rest, word = c :: rest :=
      List.exists_cons_of_ne_nil fun hnil => by
        rw [hnil] at h
        cases h
    have hc := (letter_of_named h c List.mem_cons_self).1
    rw [letters, written, Text.trim, List.cons_append, Text.trimStart_cons hc]
    exact Text.trimEnd_append_cons hplain.1 (c :: rest) length
  have hcapitals : capitals text =
      nowWord ++ sign :: (Text.trimEnd length).flatMap Text.upperChar := by
    rw [capitals, hletters, List.flatMap_append, capitals_of_named h, List.flatMap_cons, hplain.2,
      List.singleton_append]
  refine ⟨?_, ?_, ?_⟩
  · rw [hcapitals]
    exact fun heq => List.cons_ne_nil _ _ (List.append_right_eq_self.1 heq)
  · rw [hcapitals]
    exact List.isPrefixOf_iff_prefix.2 (List.prefix_append _ _)
  · have hthree : word.length = 3 := List.length_map Char.toUpper ▸ congrArg List.length h
    rw [signedTail?, hletters, List.drop_left' hthree]
    exact if_pos hsign

/-- A time relative to the present is the present, moved. -/
theorem FromNow.parse_eq {text : String} {offset : Int} (h : FromNow text offset)
    {now t : DateTime} (ht : now.add? ⟨offset⟩ = some t) : parse (some text) now = .ok t := by
  -- Blanks behind the length are cut before it is read.
  have hread {length : String} {d : Duration} (read : Duration.parse (some length) = .ok d) :
      Duration.parse (some (String.ofList (Text.trimEnd length.toList))) = .ok d := by
    refine Duration.parse_of_trim_eq ?_ read
    rw [String.toList_ofList, Text.trim_trimEnd]
  cases h with
  | present named =>
    cases now.add?_zero.symm.trans ht
    exact parse_of_named named now
  | after named written read =>
    have hplus : ¬ '+' = '-' := by decide
    rw [(moves_of_named named rfl written).parse_eq]
    simp only [relative, hread read, if_neg hplus, ht]
  | before named written read =>
    rw [(moves_of_named named rfl written).parse_eq]
    simp only [relative, hread read, if_true, DateTime.sub?_eq_add?, ht]

/-- A time relative to now is not the empty text. -/
theorem FromNow.ne_empty {text : String} {offset : Int} (h : FromNow text offset) :
    text ≠ "" := by
  rintro rfl
  cases h with
  | present named => cases named
  | after _ written _ => exact List.cons_ne_nil _ _ (List.append_eq_nil_iff.1 written.symm).2
  | before _ written _ => exact List.cons_ne_nil _ _ (List.append_eq_nil_iff.1 written.symm).2

end Timestamp

/-! ### Windows -/

namespace TimeRange

/-- A bound is an offset from the present: the one that its text names, or another where
it is left out. -/
inductive BoundAt (otherwise : Int) : Option String → Int → Prop
  | missing : BoundAt otherwise none otherwise
  | empty : BoundAt otherwise (some "") otherwise
  | named {text : String} {offset : Int} (names : Timestamp.FromNow text offset) :
      BoundAt otherwise (some text) offset

/-- Both bounds are offsets from the present. An end that is left out is the present, and a
start that is left out an hour before the end. -/
structure Relative (start finish : Option String) (s e : Int) : Prop where
  finish_at : BoundAt 0 finish e
  start_at : BoundAt (e - Duration.hour.micros) start s

variable {start finish : Option String} {s e : Int}

/-- What is read of a bound: its time, or nothing if it is left out. -/
theorem BoundAt.cases {otherwise offset : Int} {bound : Option String}
    (h : BoundAt otherwise bound offset) :
    (given? bound = none ∧ offset = otherwise)
      ∨ ∃ text, given? bound = some text ∧ Timestamp.FromNow text offset := by
  cases h with
  | missing => exact .inl ⟨rfl, rfl⟩
  | empty => exact .inl ⟨rfl, rfl⟩
  | @named text _ names =>
    refine .inr ⟨text, ?_, names⟩
    exact Option.filter_eq_some_iff.2 ⟨rfl, bne_iff_ne.2 names.ne_empty⟩

/-- The end of a relative range is now and its offset. -/
theorem Relative.finishTime_eq (h : Relative start finish s e) {now b : DateTime}
    (hb : now.add? ⟨e⟩ = some b) : finishTime finish now = .ok b := by
  unfold finishTime
  rcases h.finish_at.cases with ⟨hmissing, rfl⟩ | ⟨text, hgiven, names⟩
  · cases now.add?_zero.symm.trans hb
    rw [hmissing]
  · rw [hgiven]
    exact names.parse_eq hb

/-- And so is its start. -/
theorem Relative.startTime_eq (h : Relative start finish s e) {now a b : DateTime}
    (ha : now.add? ⟨s⟩ = some a) (hb : now.add? ⟨e⟩ = some b) :
    startTime start b now = .ok a := by
  unfold startTime
  rcases h.start_at.cases with ⟨hmissing, rfl⟩ | ⟨text, hgiven, names⟩
  · -- An hour before the end is the present, moved by both at once.
    obtain ⟨hwall, hoffset⟩ := DateTime.of?_eq_some hb
    have hback : b.sub? Duration.hour = some a := by
      rw [DateTime.sub?, hwall, hoffset, Int.add_sub_assoc]
      exact ha
    rw [hmissing]
    simp only [hback]
  · rw [hgiven]
    exact names.parse_eq ha

/-- So the range is a comparison of the two. -/
theorem Relative.parse_eq (h : Relative start finish s e) {now a b : DateTime}
    (ha : now.add? ⟨s⟩ = some a) (hb : now.add? ⟨e⟩ = some b) :
    parse start finish now = between a b := by
  rw [parse_of_finishTime (h.finishTime_eq hb), h.startTime_eq ha hb]
  rfl

/-- Two times that the present is moved to are in the order of the offsets. -/
theorem before?_of_add? {now a b : DateTime} (ha : now.add? ⟨s⟩ = some a)
    (hb : now.add? ⟨e⟩ = some b) : b.before? a = some (decide (e < s)) := by
  obtain ⟨hawall, haoffset⟩ : a.wall = now.wall + s ∧ a.offset = now.offset :=
    DateTime.of?_eq_some ha
  obtain ⟨hbwall, hboffset⟩ : b.wall = now.wall + e ∧ b.offset = now.offset :=
    DateTime.of?_eq_some hb
  have hlt : b.instant < a.instant ↔ e < s := by
    unfold DateTime.instant
    rw [hawall, hbwall, haoffset, hboffset]
    omega
  rw [DateTime.before?, haoffset, hboffset, if_pos rfl]
  exact congrArg some (decide_eq_decide.2 hlt)

/-- The offsets alone decide between a range and a refusal. -/
theorem Relative.parse_of_le (h : Relative start finish s e) {now a b : DateTime}
    (ha : now.add? ⟨s⟩ = some a) (hb : now.add? ⟨e⟩ = some b) (hle : s ≤ e) :
    ∃ r, parse start finish now = .ok r ∧ r.start = a ∧ r.finish = b := by
  have hbefore : b.before? a = some false := by
    rw [before?_of_add? ha hb, decide_eq_false (Int.not_lt.2 hle)]
  rw [h.parse_eq ha hb]
  exact between_of_before?_false hbefore

/-- Offsets out of order make no range, whatever the present is. -/
theorem Relative.parse_of_lt (h : Relative start finish s e) {now a b : DateTime}
    (ha : now.add? ⟨s⟩ = some a) (hb : now.add? ⟨e⟩ = some b) (hlt : e < s) :
    parse start finish now = .error .endBeforeStart := by
  have hbefore : b.before? a = some true := by
    rw [before?_of_add? ha hb, decide_eq_true hlt]
  rw [h.parse_eq ha hb]
  exact between_of_before?_true hbefore

/-- A range is another, moved by a duration. -/
structure MovedBy (d : Duration) (r moved : TimeRange) : Prop where
  start_moved : r.start.add? d = some moved.start
  finish_moved : r.finish.add? d = some moved.finish

/-- A relative window resolves against one present: it runs from the one offset to the
other, and is refused if it would end before it starts. When the present has moved, the
same bounds give the window moved with it, or are refused as before. -/
theorem parse_of_relative {now a b : DateTime} (h : Relative start finish s e)
    (ha : now.add? ⟨s⟩ = some a) (hb : now.add? ⟨e⟩ = some b) :
    (s ≤ e → ∃ r, parse start finish now = .ok r ∧ r.start = a ∧ r.finish = b) ∧
      (e < s → parse start finish now = .error .endBeforeStart ∧
        TimeError.endBeforeStart.kind = "InvalidTimeRange") ∧
      ∀ (d : Duration) (later a' b' : DateTime), now.add? d = some later →
        later.add? ⟨s⟩ = some a' → later.add? ⟨e⟩ = some b' →
          (∃ r r', parse start finish now = .ok r ∧ parse start finish later = .ok r' ∧
              MovedBy d r r') ∨
            (parse start finish now = .error .endBeforeStart ∧
              parse start finish later = .error .endBeforeStart) := by
  refine ⟨h.parse_of_le ha hb, fun hlt => ⟨h.parse_of_lt ha hb hlt, rfl⟩, ?_⟩
  intro d later a' b' hlater ha' hb'
  rcases Int.lt_or_le e s with hlt | hle
  · exact .inr ⟨h.parse_of_lt ha hb hlt, h.parse_of_lt ha' hb' hlt⟩
  · obtain ⟨r, hr, rfl, rfl⟩ := h.parse_of_le ha hb hle
    obtain ⟨r', hr', rfl, rfl⟩ := h.parse_of_le ha' hb' hle
    exact .inl ⟨r, r', hr, hr', DateTime.add?_right_comm ha hlater ha',
      DateTime.add?_right_comm hb hlater hb'⟩

/-- The minutes of the first of May 2024. -/
def mayAt (minutes : Fin 1440) : DateTime where
  wall := 63850118400000000 + minutes * 60000000
  offset := some 0
  wall_inRange := by
    have hlimit : (63850204800000000 : Int) < DateTime.wallLimit := by decide
    have hminutes := minutes.isLt
    omega

/-- The start is left out, so it is an hour before the end. -/
theorem relative_halfHourAgo :
    Relative none (some "nOw-30m") (-5400000000) (-1800000000) := by
  have hparse : (Duration.parse (some "30m")).toOption = some ⟨1800000000⟩ := by decide +kernel
  cases hread : Duration.parse (some "30m") with
  | error e =>
    rw [hread] at hparse
    cases hparse
  | ok d =>
    rw [hread] at hparse
    cases hparse
    have written : "nOw-30m".toList = "nOw".toList ++ '-' :: "30m".toList := by decide
    exact ⟨.named (.before (by decide) written hread), .missing⟩

/-- An hour that ended half an hour ago, at noon and at one. -/
theorem parse_halfHourAgo :
    Relative none (some "nOw-30m") (-5400000000) (-1800000000) ∧
      mayNoon.add? ⟨-5400000000⟩ = some (mayAt 630) ∧
      mayNoon.add? ⟨-1800000000⟩ = some (mayAt 690) ∧
      (∃ r, parse none (some "nOw-30m") mayNoon = .ok r ∧ r.start = mayAt 630 ∧
        r.finish = mayAt 690) ∧
      ∃ r r', parse none (some "nOw-30m") mayNoon = .ok r ∧
        parse none (some "nOw-30m") (mayAt 780) = .ok r' ∧ MovedBy Duration.hour r r' := by
  have ha : mayNoon.add? ⟨-5400000000⟩ = some (mayAt 630) := by decide
  have hb : mayNoon.add? ⟨-1800000000⟩ = some (mayAt 690) := by decide
  obtain ⟨hrange, -, hmoved⟩ := parse_of_relative relative_halfHourAgo ha hb
  refine ⟨relative_halfHourAgo, ha, hb, hrange (by decide), ?_⟩
  have hlater : mayNoon.add? Duration.hour = some (mayAt 780) := by decide
  rcases hmoved _ _ (mayAt 690) (mayAt 750) hlater (by decide) (by decide) with hok | ⟨herror, -⟩
  · exact hok
  · obtain ⟨r, hr, -⟩ := hrange (by decide)
    cases herror.symm.trans hr

end TimeRange

end QueryGuard
