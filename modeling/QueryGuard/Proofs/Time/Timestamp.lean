import QueryGuard.Proofs.Time.Duration
import QueryGuard.Time.Timestamp

/-!
# `QueryGuard.Proofs.Time.Timestamp`: times that cannot be reckoned

A text is refused when it names no time. Apart from the refusals there are times that
a text names and the arithmetic cannot reckon, and no reason is given for those:
an amount too large for a double (`Unreckonable.amount`), and a date that the
calendar of universal time does not have, though the clock that it was read from
shows it (`Unreckonable.calendar`).

`Timestamp.parse_eq_error_iff` says that these are all. A relative time whose
duration is refused, or moves it out of the calendar, is refused as a whole, so the
other errors of a duration do not appear.
-/

set_option autoImplicit false

namespace QueryGuard

namespace TimeError

/-- The errors that refuse a text are the ones that count as an invalid range. -/
theorem kind_eq_iff {e : TimeError} : e.kind = "InvalidTimeRange" ↔ e.isRefusal = true := by
  cases e <;> simp [kind, isRefusal]

end TimeError

namespace DateTime

/-- An instant has the wall time and offset it was formed from. -/
theorem of?_eq_some {wall : Int} {offset : Option Int} {t : DateTime}
    (h : of? wall offset = some t) : t.wall = wall ∧ t.offset = offset := by
  unfold of? at h
  split at h
  · cases h
    exact ⟨rfl, rfl⟩
  · cases h

/-- None is formed outside the calendar. -/
theorem of?_eq_none_iff {wall : Int} {offset : Option Int} :
    of? wall offset = none ↔ ¬ (0 ≤ wall ∧ wall < wallLimit) := by
  unfold of?
  by_cases h : 0 ≤ wall ∧ wall < wallLimit
  · rw [dif_pos h]
    exact iff_of_false nofun (not_not_intro h)
  · rw [dif_neg h]
    exact iff_of_true rfl h

/-- The calendar of universal time has the instant. -/
def InCalendar (t : DateTime) : Prop := 0 ≤ t.instant ∧ t.instant < wallLimit

/-- An instant has no form in UTC exactly when that falls outside the calendar. -/
theorem toUtc?_eq_none_iff {t : DateTime} : t.toUtc? = none ↔ ¬ t.InCalendar :=
  of?_eq_none_iff

end DateTime

namespace Timestamp

/-- The characters that a text is read as, blanks off. -/
def letters (text : String) : List Char := Text.trim text.toList

/-- The same in capitals. -/
def capitals (text : String) : List Char := (letters text).flatMap Text.upperChar

/-- The text names the present moved by the duration in `tail`. -/
structure Moves (text : String) (sign : Char) (tail : List Char) : Prop where
  notPresent : capitals text ≠ nowWord
  present : nowWord.isPrefixOf (capitals text) = true
  moved : signedTail? (letters text) = some (sign, tail)

/-- The text names a date and a time of day. -/
structure Dates (text : String) (t : DateTime) : Prop where
  notMoved : ∀ sign tail, ¬ Moves text sign tail
  marked : (capitals text).contains 'T' = true
  date : Iso.parse? (expandZulu (letters text)) = some t

/-- The text names a time that cannot be reckoned, with the error that says so. -/
inductive Unreckonable (text : String) : TimeError → Prop
  | amount {sign : Char} {tail : List Char} {components : List Duration.Component}
      (moves : Moves text sign tail)
      (duration : Duration.components? (Text.trim tail) = some components)
      (overflows : Duration.Overflows components) : Unreckonable text .numberTooLarge
  | calendar {t : DateTime} (dates : Dates text t) (known : t.offset.isSome = true)
      (outside : ¬ t.InCalendar) : Unreckonable text .dateOutOfRange

/-- A text that moves from now is read as a signed duration. -/
theorem Moves.parse_eq {text : String} {sign : Char} {tail : List Char}
    (h : Moves text sign tail) (now : DateTime) :
    parse (some text) now = relative (some text) now sign tail := by
  obtain ⟨hnot, hpre, hmoved⟩ := h
  unfold capitals letters at *
  unfold parse
  simp only [Option.getD_some, if_neg hnot, if_pos hpre, hmoved]

/-- What is neither the present nor moved from it is read as a time of its own. -/
theorem parse_of_not_moves {text : String} (hnot : capitals text ≠ nowWord)
    (h : ∀ sign tail, ¬ Moves text sign tail) (now : DateTime) :
    parse (some text) now = absolute (some text) (letters text) (capitals text) := by
  have hnone : (if nowWord.isPrefixOf (capitals text) then signedTail? (letters text) else none)
      = none := by
    split
    · next hpre =>
      refine Option.eq_none_iff_forall_not_mem.2 fun signed hmoved => ?_
      exact h signed.1 signed.2 ⟨hnot, hpre, hmoved⟩
    · rfl
  unfold capitals letters at *
  unfold parse
  simp only [Option.getD_some, if_neg hnot, hnone]

/-- The three ways in which a text is read. -/
theorem parse_cases (text : String) (now : DateTime) :
    (capitals text = nowWord ∧ parse (some text) now = .ok now)
    ∨ (∃ sign tail, Moves text sign tail
        ∧ parse (some text) now = relative (some text) now sign tail)
    ∨ ((∀ sign tail, ¬ Moves text sign tail)
        ∧ parse (some text) now = absolute (some text) (letters text) (capitals text)) := by
  by_cases hnow : capitals text = nowWord
  · exact .inl ⟨hnow, if_pos hnow⟩
  · by_cases hmoves : ∃ sign tail, Moves text sign tail
    · obtain ⟨sign, tail, h⟩ := hmoves
      exact .inr (.inl ⟨sign, tail, h, h.parse_eq now⟩)
    · have hnone : ∀ sign tail, ¬ Moves text sign tail := fun sign tail h => hmoves ⟨sign, tail, h⟩
      exact .inr (.inr ⟨hnone, parse_of_not_moves hnow hnone now⟩)

/-- A relative time fails without a refusal exactly if its amounts overflow. -/
theorem relative_eq_error_iff {text : Option String} {now : DateTime} {sign : Char}
    {tail : List Char} {e : TimeError} (he : e.isRefusal = false) :
    relative text now sign tail = .error e ↔
      e = .numberTooLarge ∧ ∃ components,
        Duration.components? (Text.trim tail) = some components
          ∧ Duration.Overflows components := by
  have hiff : Duration.parse (some (String.ofList tail)) = .error .numberTooLarge ↔ _ :=
    Duration.parse_eq_numberTooLarge_iff
  rw [String.toList_ofList] at hiff
  rw [← hiff]
  unfold relative
  cases Duration.parse (some (String.ofList tail)) with
  | error fault =>
    -- One fault of a duration is passed on as it is.
    cases fault with
    | numberTooLarge =>
      simp only [and_true]
      exact ⟨fun h => (Except.error.inj h).symm, fun h => congrArg Except.error h.symm⟩
    | _ =>
      -- The fault is wrapped, and what wraps it is a refusal.
      refine iff_of_false ?_ nofun
      intro h
      cases h
      cases he
  | ok d =>
    refine iff_of_false ?_ nofun
    simp only
    split
    · exact nofun
    · intro h
      cases h
      cases he

/-- Unix seconds fail by refusals only. -/
theorem isRefusal_of_unix {text : Option String} {negative : Bool} {digits : List Nat}
    {e : TimeError} (h : unix text negative digits = .error e) : e.isRefusal = true := by
  unfold unix at h
  split at h
  · cases h
    rfl
  · simp only at h
    split at h
    · cases h
    · cases h
      rfl

/-- A time that is not relative fails without a refusal exactly if it is a date that
universal time does not have. -/
theorem absolute_eq_error_iff {text : Option String} {cs upper : List Char} {e : TimeError}
    (he : e.isRefusal = false) :
    absolute text cs upper = .error e ↔
      e = .dateOutOfRange ∧ upper.contains 'T' = true ∧ ∃ t,
        Iso.parse? (expandZulu cs) = some t ∧ t.offset.isSome = true ∧ ¬ t.InCalendar := by
  constructor
  · intro h
    unfold absolute at h
    split at h
    · next t hread =>
      have hmarked : upper.contains 'T' = true := by
        by_contra hnot
        rw [if_neg hnot] at hread
        cases hread
      rw [if_pos hmarked] at hread
      split at h
      · cases h
        cases he
      · next hknown =>
        split at h
        · cases h
        · next hutc =>
          cases h
          exact ⟨rfl, hmarked, t, hread, Option.isSome_iff_ne_none.2 fun hnone => hknown
            (Option.isNone_iff_eq_none.2 hnone), DateTime.toUtc?_eq_none_iff.1 hutc⟩
    · -- What is no date is read as Unix seconds, and those are refused or right.
      split at h
      · rw [isRefusal_of_unix h] at he
        cases he
      · cases h
        cases he
  · rintro ⟨rfl, hmarked, t, hread, hknown, houtside⟩
    have hsome : ¬ t.offset.isNone = true := by
      rw [Option.isNone_iff_eq_none]
      exact Option.isSome_iff_ne_none.1 hknown
    unfold absolute
    rw [if_pos hmarked, hread]
    simp only [if_neg hsome, DateTime.toUtc?_eq_none_iff.2 houtside]

/-- A text fails without a refusal exactly if it names a time that cannot be
reckoned. -/
theorem parse_eq_error_iff {text : String} {now : DateTime} {e : TimeError}
    (he : e.isRefusal = false) :
    parse (some text) now = .error e ↔ Unreckonable text e := by
  -- The three ways of reading a text exclude each other.
  rcases parse_cases text now with ⟨hnow, heq⟩ | ⟨sign, tail, hmoves, heq⟩ | ⟨hstill, heq⟩
  · rw [heq]
    refine iff_of_false nofun ?_
    intro h
    cases h with
    | amount moves _ _ => exact moves.notPresent hnow
    | calendar dates _ _ =>
      have hmarked := dates.marked
      rw [hnow] at hmarked
      exact absurd hmarked (by decide)
  · rw [heq, relative_eq_error_iff he]
    constructor
    · rintro ⟨rfl, components, hread, hover⟩
      exact .amount hmoves hread hover
    · intro h
      cases h with
      | amount moves hread hover =>
        cases moves.moved.symm.trans hmoves.moved
        exact ⟨rfl, _, hread, hover⟩
      | calendar dates _ _ => exact absurd hmoves (dates.notMoved sign tail)
  · rw [heq, absolute_eq_error_iff he]
    constructor
    · rintro ⟨rfl, hmarked, t, hread, hknown, houtside⟩
      exact .calendar ⟨hstill, hmarked, hread⟩ hknown houtside
    · intro h
      cases h with
      | amount moves _ _ => exact absurd moves (hstill _ _)
      | calendar dates hknown houtside =>
        exact ⟨rfl, dates.marked, _, dates.date, hknown, houtside⟩

/-- A time that cannot be reckoned is no refusal. -/
theorem Unreckonable.isRefusal_eq {text : String} {e : TimeError} (h : Unreckonable text e) :
    e.isRefusal = false := by
  cases h <;> rfl

/-- It counts as an overflow wherever it escapes to. -/
theorem Unreckonable.kind_eq {text : String} {e : TimeError} (h : Unreckonable text e) :
    e.kind = "OverflowError" := by
  cases h <;> rfl

/-- A text that cannot be reckoned is read as that error, whatever now is. -/
theorem Unreckonable.parse_eq {text : String} {e : TimeError} (h : Unreckonable text e)
    (now : DateTime) : parse (some text) now = .error e :=
  (parse_eq_error_iff h.isRefusal_eq).2 h

/-- The first half hour of the calendar is the day before in universal time. -/
example (now : DateTime) :
    parse (some "0001-01-01T00:30:00+01:00") now = .error .dateOutOfRange := rfl

/-- A relative time is shown by the clock of the present. -/
theorem offset_of_relative {text : Option String} {now t : DateTime} {sign : Char}
    {tail : List Char} (h : relative text now sign tail = .ok t) : t.offset = now.offset := by
  unfold relative at h
  split at h
  · split at h <;> cases h
  · split at h
    · rename_i hmoved
      cases h
      split at hmoved
      · exact (DateTime.of?_eq_some hmoved).2
      · exact (DateTime.of?_eq_some hmoved).2
    · cases h

/-- Unix seconds are in UTC. -/
theorem offset_of_unix {text : Option String} {negative : Bool} {digits : List Nat}
    {t : DateTime} (h : unix text negative digits = .ok t) : t.offset = some 0 := by
  unfold unix at h
  split at h
  · cases h
  · simp only at h
    split at h
    · rename_i hunix
      cases h
      exact (DateTime.of?_eq_some hunix).2
    · cases h

/-- A time that is not relative is read into universal time. -/
theorem offset_of_absolute {text : Option String} {cs upper : List Char} {t : DateTime}
    (h : absolute text cs upper = .ok t) : t.offset = some 0 := by
  -- A date is moved to UTC, and seconds are counted there.
  unfold absolute at h
  split at h
  · split at h
    · cases h
    · split at h
      · rename_i hutc
        cases h
        exact (DateTime.of?_eq_some hutc).2
      · cases h
  · split at h
    · exact offset_of_unix h
    · cases h

/-- A time is in universal time if the present is. -/
theorem offset_of_parse {text : String} {now t : DateTime} (hnow : now.offset = some 0)
    (h : parse (some text) now = .ok t) : t.offset = some 0 := by
  rcases parse_cases text now with ⟨-, heq⟩ | ⟨sign, tail, -, heq⟩ | ⟨-, heq⟩
  · rw [heq] at h
    cases h
    exact hnow
  · exact (offset_of_relative (heq.symm.trans h)).trans hnow
  · exact offset_of_absolute (heq.symm.trans h)

end Timestamp

end QueryGuard
