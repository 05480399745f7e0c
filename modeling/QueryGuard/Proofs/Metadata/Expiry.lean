import Mathlib.Algebra.Order.Group.Int
import Mathlib.Algebra.Order.Group.Unbundled.Basic
import QueryGuard.Metadata.Cache

/-!
# `QueryGuard.Proofs.Metadata.Expiry`: when a cache asks its source

A cache is used by one caller after the other: fetches and invalidations, one
at a time, while the clock goes on between them and during a fetch. A run of
it (`Cache.Run`) leaves a history of what happened, seen from both sides: what
the source replied and when, and what came back to the caller.

`run_followsHistory` says that the history alone decides. A fetch asks the
source exactly when no reply has been kept since the last invalidation, or the
last one has been kept for as long as the time to live (`Cache.Stale`).
Otherwise it returns the last reply and leaves the source alone. After a fetch
without an answer nothing is held, so the next one asks again.

The invariant is `Cache.Tracks`: what the cache holds is the last success of
its history, unless it holds nothing because that success has expired. The
second case is there because a look-up drops what has expired, and a failure
after that stores nothing. It is kept because an expired answer stays expired,
which needs a clock that does not go back.

Times are the elements of an ordered group, so differences are exact.
-/

set_option autoImplicit false

namespace QueryGuard

/-- A source with a record of its replies, each with the time at which it
came. -/
def recorded {σ α τ : Type} (clock : σ → τ) (source : Source σ α) :
    Source (σ × List (Reply α × τ)) α :=
  fun range (s, replies) =>
    let r := source range s
    ⟨r.reply, r.journal, (r.state, replies ++ [(r.reply, clock r.state)])⟩

namespace Cache

/-! ### Histories -/

/-- One fetch through a cache. -/
structure Visit (α τ : Type) where
  /-- When it started. -/
  start : τ
  /-- What the source replied to the cache, and when, call by call. -/
  asked : List (Reply α × τ)
  /-- What came back to the caller. -/
  reply : Reply α

/-- The answer that the source gave during a visit. -/
def Visit.success? {α τ : Type} (v : Visit α τ) : Option (α × τ) :=
  match v.asked with
  | [(.value answer, time)] => some (answer, time)
  | _ => none

/-- What happens to a cache. -/
inductive Event (α τ : Type) where
  | fetch (v : Visit α τ)
  | invalidate

/-- The last answer of the source since the last invalidation, and when it
came. A history has its latest event first. -/
def lastSuccess {α τ : Type} : List (Event α τ) → Option (α × τ)
  | [] => none
  | .invalidate :: _ => none
  | .fetch v :: past => v.success?.or (lastSuccess past)

section
variable {α τ : Type} [Sub τ] [LE τ]

/-- There is nothing to return at a time: no answer is kept, or it has been
for the time to live. -/
def Stale (ttl : τ) (kept : Option (α × τ)) (now : τ) : Prop :=
  kept = none ∨ ∃ answer since, kept = some (answer, since) ∧ ttl ≤ now - since

/-- What a fetch owes to the history before it:

- `asks`: it asks the source when there is nothing to return, and only then;
- `hit`: without asking it returns the last success;
- `miss`: otherwise it asks once and passes on what the source replied. -/
structure FollowsHistory (ttl : τ) (past : List (Event α τ)) (v : Visit α τ) : Prop where
  asks : v.asked ≠ [] ↔ Stale ttl (lastSuccess past) v.start
  hit : v.asked = [] → ∃ answer since, lastSuccess past = some (answer, since) ∧
    v.reply = .value answer
  miss : v.asked ≠ [] → ∃ time, v.asked = [(v.reply, time)]

/-- A cache holds the last success of its history, or nothing because that
has expired. -/
structure Tracks (ttl : τ) (past : List (Event α τ)) (cache : Cache α τ) (now : τ) : Prop where
  ttl_eq : cache.ttl = ttl
  held : cache.held = lastSuccess past ∨
    cache.held = none ∧ Stale ttl (lastSuccess past) now

variable {ttl now : τ} {past : List (Event α τ)} {cache : Cache α τ}

/-- What the cache holds is good as long as the last success is. -/
theorem Tracks.stale_iff (h : Tracks ttl past cache now) :
    Stale cache.ttl cache.held now ↔ Stale ttl (lastSuccess past) now := by
  obtain ⟨httl, hheld | ⟨hnone, hstale⟩⟩ := h
  · rw [httl, hheld]
  · exact ⟨fun _ => hstale, fun _ => .inl hnone⟩

/-- What the cache holds is the last success of the history. -/
theorem Tracks.lastSuccess_of_held {kept : α × τ} (h : Tracks ttl past cache now)
    (hkept : cache.held = some kept) : lastSuccess past = some kept := by
  rcases h.held with hheld | ⟨hnone, -⟩
  · rw [← hheld, hkept]
  · cases hnone.symm.trans hkept

/-- Dropping the answer is an event of the history like any other. -/
theorem Tracks.invalidate (h : Tracks ttl past cache now) :
    Tracks ttl (.invalidate :: past) cache.invalidate now :=
  ⟨h.ttl_eq, .inl rfl⟩

end

/-! ### One fetch -/

section
variable {σ α τ : Type} [Sub τ] [LE τ] [DecidableLE τ]

/-- The record of a fetch. -/
def visit (name : String) (clock : σ → τ) (source : Source σ α) (range : Option TimeRange)
    (cache : Cache α τ) (s : σ) : Visit α τ where
  start := clock s
  asked := (cached name (fun world => clock world.1) (recorded clock source) range
    (cache, (s, []))).state.2.2
  reply := (cached name clock source range (cache, s)).reply

variable (name : String) (clock : σ → τ) (source : Source σ α) (range : Option TimeRange)
  {cache other : Cache α τ} {s : σ}

/-- A stale answer is dropped on the way to a miss. -/
theorem lookup_of_stale {now : τ} (h : Stale cache.ttl cache.held now) :
    cache.lookup now = (none, cache.invalidate) := by
  obtain ⟨ttl, held⟩ := cache
  rcases h with rfl | ⟨answer, since, rfl, hexpired⟩
  · rfl
  · exact if_pos hexpired

/-- An answer that is not stale is given, and the cache stays as it is. -/
theorem lookup_of_not_stale {now : τ} (h : ¬ Stale cache.ttl cache.held now) :
    ∃ answer since, cache.held = some (answer, since) ∧
      cache.lookup now = (some answer, cache) := by
  obtain ⟨ttl, held⟩ := cache
  cases held with
  | none => exact absurd (.inl rfl) h
  | some kept =>
    obtain ⟨answer, since⟩ := kept
    refine ⟨answer, since, rfl, if_neg fun hexpired => h (.inr ?_)⟩
    exact ⟨answer, since, rfl, hexpired⟩

/-- On a miss the source is asked and its reply completes the cache. -/
theorem cached_of_lookup_none {r : Fetched σ α} (h : cache.lookup (clock s) = (none, other))
    (hr : source range s = r) :
    cached name clock source range (cache, s) =
      ⟨r.reply, r.journal, (other.complete r.reply (clock r.state), r.state)⟩ := by
  subst hr
  simp only [cached, h]

/-- On a hit the source is never asked, so its state does not move. -/
theorem cached_of_lookup_some {answer : α} (h : cache.lookup (clock s) = (some answer, other)) :
    cached name clock source range (cache, s) =
      ⟨.value answer, [.record (cacheHitRecord name)], (other, s)⟩ := by
  simp only [cached, h]

/-- The history's view of a miss: one attempt, at the time the reply came. -/
theorem visit_of_lookup_none {r : Fetched σ α} (h : cache.lookup (clock s) = (none, other))
    (hr : source range s = r) :
    visit name clock source range cache s = ⟨clock s, [(r.reply, clock r.state)], r.reply⟩ := by
  subst hr
  have hrecorded : cached name (fun world => clock world.1) (recorded clock source) range
      (cache, (s, [])) = _ := cached_of_lookup_none _ _ _ _ h rfl
  rw [visit, hrecorded, cached_of_lookup_none name clock source range h rfl]
  rfl

/-- The history's view of a hit: no attempt at all. -/
theorem visit_of_lookup_some {answer : α} (h : cache.lookup (clock s) = (some answer, other)) :
    visit name clock source range cache s = ⟨clock s, [], .value answer⟩ := by
  have hrecorded : cached name (fun world => clock world.1) (recorded clock source) range
      (cache, (s, [])) = _ := cached_of_lookup_some _ _ _ _ h
  rw [visit, hrecorded, cached_of_lookup_some name clock source range h]

/-- A fetch either asks, and the cache has let go of what it held when the
reply comes; or it has the answer that is held, and changes nothing. -/
theorem fetch_cases :
    (∃ reply journal later, source range s = ⟨reply, journal, later⟩ ∧
      Stale cache.ttl cache.held (clock s) ∧
      visit name clock source range cache s = ⟨clock s, [(reply, clock later)], reply⟩ ∧
      (cached name clock source range (cache, s)).state =
        (cache.invalidate.complete reply (clock later), later)) ∨
    ∃ answer since, cache.held = some (answer, since) ∧
      ¬ Stale cache.ttl cache.held (clock s) ∧
      visit name clock source range cache s = ⟨clock s, [], .value answer⟩ ∧
      (cached name clock source range (cache, s)).state = (cache, s) := by
  by_cases hstale : Stale cache.ttl cache.held (clock s)
  · cases hr : source range s with
    | mk reply journal later =>
      have hlookup := lookup_of_stale hstale
      refine .inl ⟨reply, journal, later, rfl, hstale, ?_, ?_⟩
      · rw [visit_of_lookup_none name clock source range hlookup hr]
      · rw [cached_of_lookup_none name clock source range hlookup hr]
  · obtain ⟨answer, since, hheld, hlookup⟩ := lookup_of_not_stale hstale
    refine .inr ⟨answer, since, hheld, hstale, ?_, ?_⟩
    · rw [visit_of_lookup_some name clock source range hlookup]
    · rw [cached_of_lookup_some name clock source range hlookup]

/-- A fetch from a cache that tracks its history follows that history. -/
theorem Tracks.followsHistory {ttl : τ} {past : List (Event α τ)}
    (h : Tracks ttl past cache (clock s)) :
    FollowsHistory ttl past (visit name clock source range cache s) := by
  rcases fetch_cases name clock source range with
    ⟨reply, journal, later, -, hstale, hvisit, -⟩ | ⟨answer, since, hheld, hfresh, hvisit, -⟩
  · rw [hvisit]
    refine ⟨?_, nofun, fun _ => ⟨_, rfl⟩⟩
    exact iff_of_true nofun (h.stale_iff.1 hstale)
  · rw [hvisit]
    have hlast := h.lastSuccess_of_held hheld
    refine ⟨?_, fun _ => ⟨answer, since, hlast, rfl⟩, fun hne => absurd rfl hne⟩
    exact iff_of_false (fun hne => hne rfl) fun hnothing => hfresh (h.stale_iff.2 hnothing)

/-- A fetch without an answer leaves the cache empty. -/
theorem held_cached_eq_none
    (hfailed : ∀ answer, (visit name clock source range cache s).reply ≠ .value answer) :
    (cached name clock source range (cache, s)).state.1.held = none := by
  rcases fetch_cases name clock source range with
    ⟨reply, journal, later, -, -, hvisit, hstate⟩ | ⟨answer, since, -, -, hvisit, -⟩
  · rw [hstate]
    rw [hvisit] at hfailed
    cases reply with
    | value answer => exact absurd rfl (hfailed answer)
    | failure f => rfl
    | never => rfl
  · -- A hit is an answer.
    rw [hvisit] at hfailed
    exact absurd rfl (hfailed answer)

/-- A fetch from an empty cache asks. -/
theorem asked_ne_nil_of_held (h : cache.held = none) :
    (visit name clock source range cache s).asked ≠ [] := by
  rcases fetch_cases name clock source range with
    ⟨reply, journal, later, -, -, hvisit, -⟩ | ⟨answer, since, hheld, -, -, -⟩
  · rw [hvisit]
    nofun
  · cases h.symm.trans hheld

end

/-! ### A whole run -/

section
variable {σ α τ : Type} [Sub τ] [LE τ] [DecidableLE τ] (name : String) (clock : σ → τ) (ttl : τ)

/-- A run of a cache from its creation on: the history, the cache, and the
state of the world, in which the clock does not go back. The source may be
another one at each fetch, for nothing is assumed about how its replies hang
together. One that never replies stands for a fetch that is cut off while it
waits. -/
inductive Run : List (Event α τ) → Cache α τ → σ → Prop where
  | start (s : σ) : Run [] ⟨ttl, none⟩ s
  | wait {past : List (Event α τ)} {cache : Cache α τ} {s later : σ}
    (h : Run past cache s) (forward : clock s ≤ clock later) : Run past cache later
  | fetch {past : List (Event α τ)} {cache : Cache α τ} {s : σ} (h : Run past cache s)
    (source : Source σ α) (range : Option TimeRange)
    (forward : clock s ≤ clock (cached name clock source range (cache, s)).state.2) :
    Run (.fetch (visit name clock source range cache s) :: past)
      (cached name clock source range (cache, s)).state.1
      (cached name clock source range (cache, s)).state.2
  | invalidate {past : List (Event α τ)} {cache : Cache α τ} {s : σ} (h : Run past cache s) :
    Run (.invalidate :: past) cache.invalidate s

variable {name clock ttl} {past : List (Event α τ)} {cache : Cache α τ} {s : σ} {v : Visit α τ}

/-- A fetch in the history of a run was made by a cache that had run through
the history before it. -/
theorem Run.exists_visit {later : List (Event α τ)}
    (h : Run name clock ttl (later ++ .fetch v :: past) cache s) :
    ∃ (before : Cache α τ) (world : σ) (source : Source σ α) (range : Option TimeRange),
      Run name clock ttl past before world ∧ v = visit name clock source range before world := by
  -- The visit is the last event of the run, or stands in the history before that event.
  generalize hhistory : later ++ .fetch v :: past = history at h
  induction h generalizing later with
  | start s => cases List.append_eq_nil_iff.1 hhistory |>.2
  | wait _ _ ih => exact ih hhistory
  | @fetch _ before world h source range _ ih =>
    cases later with
    | nil =>
      cases hhistory
      exact ⟨before, world, source, range, h, rfl⟩
    | cons e rest => exact ih (List.cons.inj hhistory).2
  | invalidate _ ih =>
    cases later with
    | nil => cases hhistory
    | cons e rest => exact ih (List.cons.inj hhistory).2

/-- After a fetch without an answer nothing is held until the next fetch. -/
theorem Run.held_eq_none {between : List (Event α τ)}
    (h : Run name clock ttl (between ++ .fetch v :: past) cache s)
    (hbetween : ∀ e ∈ between, e = .invalidate) (hfailed : ∀ answer, v.reply ≠ .value answer) :
    cache.held = none := by
  generalize hhistory : between ++ .fetch v :: past = history at h
  induction h generalizing between with
  | start s => cases List.append_eq_nil_iff.1 hhistory |>.2
  | wait _ _ ih => exact ih hbetween hhistory
  | fetch _ source range _ _ =>
    cases between with
    | nil =>
      cases hhistory
      exact held_cached_eq_none name clock source range hfailed
    | cons e rest =>
      -- There is no other fetch after the one that failed.
      have he := hbetween e List.mem_cons_self
      cases he.symm.trans (List.cons.inj hhistory).1
  | invalidate _ _ => rfl

end

section
variable {σ α τ : Type} [AddCommGroup τ] [LinearOrder τ] [IsOrderedAddMonoid τ]
  {name : String} {clock : σ → τ} {ttl : τ} {past : List (Event α τ)} {cache : Cache α τ} {s : σ}

/-- What has expired stays so. -/
theorem Stale.later {kept : Option (α × τ)} {now later : τ} (h : Stale ttl kept now)
    (hle : now ≤ later) : Stale ttl kept later := by
  rcases h with hnone | ⟨answer, since, hkept, hexpired⟩
  · exact .inl hnone
  · exact .inr ⟨answer, since, hkept, hexpired.trans (sub_le_sub_right hle since)⟩

/-- Time that passes between two fetches can only make the answer older. -/
theorem Tracks.wait {now later : τ} (h : Tracks ttl past cache now) (hle : now ≤ later) :
    Tracks ttl past cache later := by
  refine ⟨h.ttl_eq, h.held.imp_right ?_⟩
  rintro ⟨hnone, hstale⟩
  exact ⟨hnone, hstale.later hle⟩

/-- One fetch extends the history by its own visit. This is the step the run lemma repeats. -/
theorem Tracks.fetch {source : Source σ α} {range : Option TimeRange}
    (h : Tracks ttl past cache (clock s))
    (forward : clock s ≤ clock (cached name clock source range (cache, s)).state.2) :
    Tracks ttl (.fetch (visit name clock source range cache s) :: past)
      (cached name clock source range (cache, s)).state.1
      (clock (cached name clock source range (cache, s)).state.2) := by
  rcases fetch_cases name clock source range with
    ⟨reply, journal, later, -, hstale, hvisit, hstate⟩ | ⟨answer, since, hheld, -, hvisit, hstate⟩
  · rw [hstate] at forward ⊢
    rw [hvisit]
    -- The clock may go on while the source is asked; what was stale before still is.
    have hlast := (h.stale_iff.1 hstale).later forward
    -- An answer is stored at the time of its record; anything else leaves the cache empty.
    cases reply with
    | value answer => exact ⟨h.ttl_eq, .inl rfl⟩
    | failure f => exact ⟨h.ttl_eq, .inr ⟨rfl, hlast⟩⟩
    | never => exact ⟨h.ttl_eq, .inr ⟨rfl, hlast⟩⟩
  · rw [hstate, hvisit]
    exact ⟨h.ttl_eq, .inl (hheld.trans (h.lastSuccess_of_held hheld).symm)⟩

/-- Along a run the cache holds the last success, unless that has expired. -/
theorem Run.tracks (h : Run name clock ttl past cache s) : Tracks ttl past cache (clock s) := by
  induction h with
  | start s => exact ⟨rfl, .inl rfl⟩
  | wait _ forward ih => exact ih.wait forward
  | fetch _ source range forward ih => exact ih.fetch forward
  | invalidate _ ih => exact ih.invalidate

/-- Every fetch of a run follows the history before it. One that got no answer
leaves nothing in the cache, and the next one asks the source again, whether or
not the cache is invalidated in between. -/
theorem run_followsHistory {history : List (Event α τ)} (h : Run name clock ttl history cache s) :
    (∀ later v past, history = later ++ .fetch v :: past → FollowsHistory ttl past v) ∧
    (∀ v past, history = .fetch v :: past → (∀ answer, v.reply ≠ .value answer) →
      cache.held = none) ∧
    ∀ later w between v past,
      history = later ++ .fetch w :: (between ++ .fetch v :: past) →
      (∀ e ∈ between, e = .invalidate) → (∀ answer, v.reply ≠ .value answer) →
      w.asked ≠ [] := by
  refine ⟨?_, ?_, ?_⟩
  · rintro later v past rfl
    obtain ⟨before, world, source, range, hbefore, rfl⟩ := h.exists_visit
    exact hbefore.tracks.followsHistory name clock source range
  · rintro v past rfl hfailed
    have h : Run name clock ttl ([] ++ .fetch v :: past) cache s := h
    exact h.held_eq_none nofun hfailed
  · rintro later w between v past rfl hbetween hfailed
    obtain ⟨before, world, source, range, hbefore, rfl⟩ := h.exists_visit
    have hnone := hbefore.held_eq_none hbetween hfailed
    exact asked_ne_nil_of_held name clock source range hnone

end

/-- One metric, and no labels. -/
def oneMetric : Snapshot := ⟨Counts.ofList [("up", 3)], Counts.empty⟩

/-- A source that answers after two seconds. -/
def slowSource : Source ℤ Snapshot := fun _ now => ⟨.value oneMetric, [], now + 2⟩

/-- A source that is given up after one second. -/
def silentSource : Source ℤ Snapshot := fun _ now => ⟨.never, [], now + 1⟩

/-- A fetch from the slow source. -/
def slowVisit (start : ℤ) : Visit Snapshot ℤ :=
  ⟨start, [(.value oneMetric, start + 2)], .value oneMetric⟩

/-- A fetch that the cache answers. -/
def hitVisit (start : ℤ) : Visit Snapshot ℤ := ⟨start, [], .value oneMetric⟩

/-- A fetch that waits for the silent source. -/
def silentVisit (start : ℤ) : Visit Snapshot ℤ := ⟨start, [(.never, start + 1)], .never⟩

/-- An answer stored at second two, with ten seconds to live, is returned at
second eleven and asked for again at second twelve. -/
theorem run_slowSource :
    Run "cached:slow" id 10
      [.fetch (slowVisit 13), .fetch (silentVisit 12), .fetch (hitVisit 11), .fetch (slowVisit 0)]
      ⟨10, some (oneMetric, 15)⟩ 15 := by
  have hstart : Run "cached:slow" id 10 [] (⟨10, none⟩ : Cache Snapshot ℤ) 0 := .start 0
  -- The slow source takes two seconds, and the answer's age counts from its completion.
  have hslow : Run "cached:slow" id 10 [.fetch (slowVisit 0)] ⟨10, some (oneMetric, 2)⟩ 2 :=
    hstart.fetch slowSource none (by decide)
  have heleven : Run "cached:slow" id 10 [.fetch (slowVisit 0)] ⟨10, some (oneMetric, 2)⟩ 11 :=
    hslow.wait (by decide)
  have hhit : Run "cached:slow" id 10 [.fetch (hitVisit 11), .fetch (slowVisit 0)]
      ⟨10, some (oneMetric, 2)⟩ 11 := heleven.fetch silentSource none (by decide)
  have htwelve : Run "cached:slow" id 10 [.fetch (hitVisit 11), .fetch (slowVisit 0)]
      ⟨10, some (oneMetric, 2)⟩ 12 := hhit.wait (by decide)
  have hsilent : Run "cached:slow" id 10
      [.fetch (silentVisit 12), .fetch (hitVisit 11), .fetch (slowVisit 0)] ⟨10, none⟩ 13 :=
    htwelve.fetch silentSource none (by decide)
  exact hsilent.fetch slowSource none (by decide)

/-- The fetch at second eleven has the stored answer, the one at second twelve
asks, and so does the next one, because nothing came of it. -/
theorem followsHistory_slowSource :
    Run "cached:slow" id 10
      [.fetch (slowVisit 13), .fetch (silentVisit 12), .fetch (hitVisit 11), .fetch (slowVisit 0)]
      ⟨10, some (oneMetric, 15)⟩ 15 ∧
    FollowsHistory 10 [.fetch (slowVisit 0)] (hitVisit 11) ∧
    FollowsHistory 10 [.fetch (hitVisit 11), .fetch (slowVisit 0)] (silentVisit 12) ∧
    (slowVisit 13).asked ≠ [] := by
  have hrun := run_slowSource
  obtain ⟨hfollows, -, hnext⟩ := run_followsHistory hrun
  have hhit := hfollows [.fetch (slowVisit 13), .fetch (silentVisit 12)] (hitVisit 11) _ rfl
  have hsilent := hfollows [.fetch (slowVisit 13)] (silentVisit 12) _ rfl
  have hagain := hnext [] (slowVisit 13) [] (silentVisit 12) _ rfl nofun nofun
  exact ⟨hrun, hhit, hsilent, hagain⟩

end Cache

end QueryGuard
