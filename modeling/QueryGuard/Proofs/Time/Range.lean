import QueryGuard.Proofs.Time.Timestamp
import QueryGuard.Time.Range

/-!
# `QueryGuard.Proofs.Time.Range`: what becomes of two bounds

Two bounds should make a range or be refused (`TimeRange.Settles`): a refusal is
what a caller answers as the user's error, and any other error passes it by.

There are bounds that do neither (`TimeRange.Unreckonable`): a time that cannot be
reckoned, and an end so early that the calendar has nothing an hour before it, where
the start is left out. `TimeRange.settles_iff` says that there are no others, and that
each of them escapes as an overflow.
-/

set_option autoImplicit false

namespace QueryGuard

namespace TimeRange

/-- The end of a range: the time given, or the present. -/
def finishTime (finish : Option String) (now : DateTime) : Except TimeError DateTime :=
  match given? finish with
  | some text => Timestamp.parse (some text) now
  | none => .ok now

/-- The start of a range: the time given, or one hour before the end. -/
def startTime (start : Option String) (finish now : DateTime) : Except TimeError DateTime :=
  match given? start with
  | some text => Timestamp.parse (some text) now
  | none =>
    match finish.sub? Duration.hour with
    | some t => .ok t
    | none => .error .dateOutOfRange

/-- Two bounds make a range in universal time or are refused. -/
inductive Settles (start finish : Option String) (now : DateTime) : Prop
  | range (r : TimeRange) (parsed : parse start finish now = .ok r)
      (start_utc : r.start.offset = some 0) (finish_utc : r.finish.offset = some 0)
      (ordered : r.start.instant ≤ r.finish.instant)
  | refused (e : TimeError) (parsed : parse start finish now = .error e)
      (kind : e.kind = "InvalidTimeRange")

/-- Two bounds of which one cannot be reckoned, with the error that says so. The start
counts only if there is an end. -/
inductive Unreckonable (start finish : Option String) (now : DateTime) : TimeError → Prop
  | finish {text : String} {e : TimeError} (given : given? finish = some text)
      (time : Timestamp.Unreckonable text e) : Unreckonable start finish now e
  | start {text : String} {e : TimeError} {t : DateTime} (ends : finishTime finish now = .ok t)
      (given : given? start = some text) (time : Timestamp.Unreckonable text e) :
      Unreckonable start finish now e
  | window {t : DateTime} (ends : finishTime finish now = .ok t)
      (missing : given? start = none) (early : t.wall < Duration.hour.micros) :
      Unreckonable start finish now .dateOutOfRange

/-! ### The bounds, one by one -/

/-- The end breaks down only when it is given and cannot be reckoned. -/
theorem finishTime_eq_error_iff {finish : Option String} {now : DateTime} {e : TimeError}
    (he : e.isRefusal = false) :
    finishTime finish now = .error e ↔
      ∃ text, given? finish = some text ∧ Timestamp.Unreckonable text e := by
  unfold finishTime
  cases hgiven : given? finish with
  | none => exact iff_of_false nofun nofun
  | some text =>
    constructor
    · exact fun h => ⟨text, rfl, (Timestamp.parse_eq_error_iff he).1 h⟩
    · intro h
      obtain ⟨other, hother, time⟩ := h
      cases hother
      exact time.parse_eq now

/-- Going back an hour leaves the calendar only in its first hour. -/
theorem sub_hour_eq_none_iff {t : DateTime} :
    t.sub? Duration.hour = none ↔ t.wall < Duration.hour.micros := by
  have hrange := t.wall_inRange
  have hpos : 0 < Duration.hour.micros := by decide
  rw [DateTime.sub?, DateTime.of?_eq_none_iff]
  omega

/-- The start can break down in one more way: by default, an hour before an end that has no
hour before it. -/
theorem startTime_eq_error_iff {start : Option String} {finish now : DateTime} {e : TimeError}
    (he : e.isRefusal = false) :
    startTime start finish now = .error e ↔
      (∃ text, given? start = some text ∧ Timestamp.Unreckonable text e)
        ∨ (given? start = none ∧ e = .dateOutOfRange ∧ finish.wall < Duration.hour.micros) := by
  unfold startTime
  cases hgiven : given? start with
  | some text =>
    constructor
    · exact fun h => .inl ⟨text, rfl, (Timestamp.parse_eq_error_iff he).1 h⟩
    · intro h
      rcases h with ⟨other, hother, time⟩ | ⟨hmissing, -⟩
      · cases hother
        exact time.parse_eq now
      · cases hmissing
  | none =>
    -- Without a text the start is reckoned back, and that alone can fail.
    cases hsub : finish.sub? Duration.hour with
    | none =>
      constructor
      · intro h
        cases h
        exact .inr ⟨rfl, rfl, sub_hour_eq_none_iff.1 hsub⟩
      · intro h
        rcases h with ⟨text, hgiven, -⟩ | ⟨-, rfl, -⟩
        · cases hgiven
        · rfl
    | some t =>
      refine iff_of_false nofun ?_
      intro h
      rcases h with ⟨text, hgiven, -⟩ | ⟨-, -, hearly⟩
      · cases hgiven
      · rw [sub_hour_eq_none_iff.2 hearly] at hsub
        cases hsub

/-- The end of a range is in UTC. -/
theorem offset_of_finishTime {finish : Option String} {now t : DateTime}
    (hnow : now.offset = some 0) (h : finishTime finish now = .ok t) : t.offset = some 0 := by
  unfold finishTime at h
  split at h
  · exact Timestamp.offset_of_parse hnow h
  · cases h
    exact hnow

/-- So is the start. -/
theorem offset_of_startTime {start : Option String} {finish now t : DateTime}
    (hnow : now.offset = some 0) (hfinish : finish.offset = some 0)
    (h : startTime start finish now = .ok t) : t.offset = some 0 := by
  unfold startTime at h
  split at h
  · exact Timestamp.offset_of_parse hnow h
  · split at h
    · rename_i hsub
      cases h
      exact (DateTime.of?_eq_some hsub).2.trans hfinish
    · cases h

/-! ### The range -/

/-- Two times in order make a range. -/
theorem between_of_before?_false {a b : DateTime} (h : b.before? a = some false) :
    ∃ r, between a b = .ok r ∧ r.start = a ∧ r.finish = b := by
  unfold between
  split
  · exact ⟨_, rfl, rfl, rfl⟩
  · next htrue => cases htrue.symm.trans h
  · next hnone => cases hnone.symm.trans h

/-- Two times out of order make none. -/
theorem between_of_before?_true {a b : DateTime} (h : b.before? a = some true) :
    between a b = .error .endBeforeStart := by
  unfold between
  split
  · next hfalse => cases hfalse.symm.trans h
  · rfl
  · next hnone => cases hnone.symm.trans h

/-- Two times on the clock of universal time make a range, or the end is before the
start. -/
theorem between_cases {start finish : DateTime} (hstart : start.offset = some 0)
    (hfinish : finish.offset = some 0) :
    (∃ r, between start finish = .ok r ∧ r.start = start ∧ r.finish = finish
        ∧ start.instant ≤ finish.instant)
      ∨ between start finish = .error .endBeforeStart := by
  have hbefore : finish.before? start = some (decide (finish.instant < start.instant)) := by
    rw [DateTime.before?, hstart, hfinish]
    rfl
  rcases Int.lt_or_le finish.instant start.instant with hlt | hle
  · rw [decide_eq_true hlt] at hbefore
    exact .inr (between_of_before?_true hbefore)
  · rw [decide_eq_false (Int.not_lt.2 hle)] at hbefore
    obtain ⟨r, hr, hstart_eq, hfinish_eq⟩ := between_of_before?_false hbefore
    exact .inl ⟨r, hr, hstart_eq, hfinish_eq, hle⟩

/-- The two bounds are read one after the other, the end first. -/
theorem parse_eq (start finish : Option String) (now : DateTime) :
    parse start finish now = (finishTime finish now >>= fun t =>
      startTime start t now >>= fun s => between s t) := by
  -- What comes after a choice is repeated in each of its branches.
  have hstart : ∀ t : DateTime,
      (match given? start with
        | some text => Timestamp.parse (some text) now >>= fun s => between s t
        | none =>
          match t.sub? Duration.hour with
          | some s => between s t
          | none => .error .dateOutOfRange)
        = (startTime start t now >>= fun s => between s t) := by
    intro t
    unfold startTime
    cases given? start with
    | some text => rfl
    | none => cases t.sub? Duration.hour <;> rfl
  unfold parse finishTime
  cases given? finish with
  | some text => exact congrArg (Timestamp.parse (some text) now >>= ·) (funext hstart)
  | none => exact hstart now

/-- The end is settled first, and its error is the range's. -/
theorem parse_of_finishTime_error {start finish : Option String} {now : DateTime}
    {e : TimeError} (h : finishTime finish now = .error e) : parse start finish now = .error e := by
  rw [parse_eq, h]
  rfl

/-- With an end, the range is the start's and the comparison's. -/
theorem parse_of_finishTime {start finish : Option String} {now t : DateTime}
    (h : finishTime finish now = .ok t) :
    parse start finish now = startTime start t now >>= fun s => between s t := by
  rw [parse_eq, h]
  rfl

/-- Bounds that cannot be reckoned make an overflow, and no refusal. -/
theorem Unreckonable.parse_eq {start finish : Option String} {now : DateTime} {e : TimeError}
    (h : Unreckonable start finish now e) :
    parse start finish now = .error e ∧ e.kind = "OverflowError" := by
  -- The end is settled before the start, and the start by default needs the end.
  cases h with
  | @finish text _ given time =>
    have hfinish : finishTime finish now = .error e :=
      (finishTime_eq_error_iff time.isRefusal_eq).2 ⟨text, given, time⟩
    exact ⟨parse_of_finishTime_error hfinish, time.kind_eq⟩
  | @start text _ t ends given time =>
    have hstart : startTime start t now = .error e :=
      (startTime_eq_error_iff time.isRefusal_eq).2 (.inl ⟨text, given, time⟩)
    rw [parse_of_finishTime ends, hstart]
    exact ⟨rfl, time.kind_eq⟩
  | @window t ends missing early =>
    have hstart : startTime start t now = .error .dateOutOfRange :=
      (startTime_eq_error_iff rfl).2 (.inr ⟨missing, rfl, early⟩)
    rw [parse_of_finishTime ends, hstart]
    exact ⟨rfl, rfl⟩

/-- Bounds that do not settle cannot be reckoned. -/
theorem settles_or_unreckonable {start finish : Option String} {now : DateTime}
    (hnow : now.offset = some 0) :
    Settles start finish now ∨ ∃ e, Unreckonable start finish now e := by
  -- An error of a bound is either a refusal of the whole or an overflow of that bound.
  cases hfinish : finishTime finish now with
  | error e =>
    cases he : e.isRefusal with
    | true =>
      exact .inl (.refused e (parse_of_finishTime_error hfinish) (TimeError.kind_eq_iff.2 he))
    | false =>
      obtain ⟨text, given, time⟩ := (finishTime_eq_error_iff he).1 hfinish
      exact .inr ⟨e, .finish given time⟩
  | ok t =>
    have hfinish_utc := offset_of_finishTime hnow hfinish
    have hparse : parse start finish now = startTime start t now >>= fun s => between s t :=
      parse_of_finishTime hfinish
    cases hstart : startTime start t now with
    | error e =>
      rw [hstart] at hparse
      cases he : e.isRefusal with
      | true => exact .inl (.refused e hparse (TimeError.kind_eq_iff.2 he))
      | false =>
        rcases (startTime_eq_error_iff he).1 hstart with
          ⟨text, given, time⟩ | ⟨missing, rfl, early⟩
        · exact .inr ⟨e, .start hfinish given time⟩
        · exact .inr ⟨_, .window hfinish missing early⟩
    | ok s =>
      have hstart_utc := offset_of_startTime hnow hfinish_utc hstart
      rw [hstart] at hparse
      rcases between_cases hstart_utc hfinish_utc with ⟨r, hr, rfl, rfl, hle⟩ | hbefore
      · exact .inl (.range r (hparse.trans hr) hstart_utc hfinish_utc hle)
      · exact .inl (.refused _ (hparse.trans hbefore) rfl)

/-- Two bounds make a range in universal time or are refused, unless one of them
cannot be reckoned; then that overflow is what comes of them. -/
theorem settles_iff {start finish : Option String} {now : DateTime}
    (hnow : now.offset = some 0) :
    (Settles start finish now ↔ ∀ e, ¬ Unreckonable start finish now e)
      ∧ ∀ e, Unreckonable start finish now e →
          parse start finish now = .error e ∧ e.kind = "OverflowError" := by
  refine ⟨⟨?_, ?_⟩, fun e h => h.parse_eq⟩
  · intro settles e h
    obtain ⟨herror, hkind⟩ := h.parse_eq
    cases settles with
    | range r parsed => cases parsed.symm.trans herror
    | refused e' parsed kind =>
      cases parsed.symm.trans herror
      rw [hkind] at kind
      exact absurd kind (by decide)
  · intro hnone
    -- The two exclude each other and leave nothing out.
    rcases settles_or_unreckonable hnow with settles | ⟨e, h⟩
    · exact settles
    · exact absurd h (hnone e)

/-- Noon of the first of May 2024. -/
def mayNoon : DateTime := ⟨63850161600000000, some 0, by decide⟩

/-- An end in the first half hour of the calendar, and no start. -/
theorem unreckonable_firstHour :
    Unreckonable none (some "0001-01-01T00:30:00Z") mayNoon .dateOutOfRange := by
  have hwall : (finishTime (some "0001-01-01T00:30:00Z") mayNoon).toOption.map DateTime.wall
      = some 1800000000 := rfl
  cases hends : finishTime (some "0001-01-01T00:30:00Z") mayNoon with
  | error e =>
    rw [hends] at hwall
    cases hwall
  | ok t =>
    rw [hends] at hwall
    have ht : t.wall = 1800000000 := Option.some.inj hwall
    exact .window hends rfl (by rw [ht]; decide)

/-- The last hour before noon can be reckoned. -/
theorem not_unreckonable_lastHour (e : TimeError) :
    ¬ Unreckonable (some "NOW-1h") none mayNoon e := by
  intro h
  have hparsed : (parse (some "NOW-1h") none mayNoon).toOption.isSome = true := by
    decide +kernel
  rw [h.parse_eq.1] at hparsed
  cases hparsed

/-- The last hour before noon settles, and of the first half hour of the calendar nothing
comes but an overflow. -/
theorem settles_lastHour :
    mayNoon.offset = some 0 ∧ Settles (some "NOW-1h") none mayNoon
      ∧ parse none (some "0001-01-01T00:30:00Z") mayNoon = .error .dateOutOfRange := by
  have hnow : mayNoon.offset = some 0 := rfl
  exact ⟨hnow, (settles_iff hnow).1.2 not_unreckonable_lastHour,
    ((settles_iff hnow).2 _ unreckonable_firstHour).1⟩

/-- An overflow comes of an end that the calendar has, where there is no start. -/
theorem not_settles_firstHour :
    mayNoon.offset = some 0 ∧ ¬ Settles none (some "0001-01-01T00:30:00Z") mayNoon := by
  obtain ⟨herror, hkind⟩ := unreckonable_firstHour.parse_eq
  refine ⟨rfl, fun settles => ?_⟩
  cases settles with
  | range r parsed => cases parsed.symm.trans herror
  | refused e parsed kind =>
    cases parsed.symm.trans herror
    exact absurd kind (by decide)

end TimeRange

end QueryGuard
