import QueryGuard.Proofs.Metadata.Expiry

/-!
# `QueryGuard.Proofs.Metadata.Interleaving`: a cache with fetches under way

Several callers share a cache. A call starts with a look-up; if that finds
nothing, the source is asked, and the call completes when the reply comes.
Anything may happen between the two: other calls start and complete, the cache
is invalidated, the clock goes on. `Interleaved.Run` is a run of such events in
any order, and its history has the latest event first. An event is placed by
how much had happened before it, and every answer carries the place at which
its source was asked (`Obtained`).

Is an invalidation final (`Final`)? A call that starts after it would then never
return an answer that the source was asked for before it. That does not hold:
a fetch that is under way at an invalidation still stores its answer when it
completes, and the next call returns it (`not_final_overtaken`).

This is the only way. `asked_after_or_waiting` says that a call that starts after
an invalidation returns an answer asked for after it, or one whose fetch was
under way at the invalidation and completed since. So an answer that was there
to be returned at an invalidation is never returned after it, and with nothing
under way an invalidation is final.

The invariant is `Run.fresh`: what the cache holds was stored since the last
invalidation. When it was asked for does not matter to the cache, which is where
the first statement fails.

A call that nothing interrupts is the fetch of a cached source (`Run.fetch`), so that
this is the same cache as that of one caller.
-/

set_option autoImplicit false

namespace QueryGuard.Cache

/-- An answer, and the place in the history at which its source was asked. -/
structure Obtained (α : Type) where
  answer : α
  asked : Nat
  deriving DecidableEq

/-- A reply to a source that was asked at a place. -/
def obtained {α : Type} (asked : Nat) : Reply α → Reply (Obtained α)
  | .value answer => .value ⟨answer, asked⟩
  | .failure f => .failure f
  | .never => .never

/-- A source whose answers carry the place at which it is asked. -/
def marking {σ α : Type} (asked : Nat) (source : Source σ α) : Source σ (Obtained α) :=
  fun range s =>
    let r := source range s
    ⟨obtained asked r.reply, r.journal, r.state⟩

namespace Interleaved

/-- What happens to a cache that callers share. -/
inductive Event (α : Type) where
  /-- A call starts, and returns what the cache holds. -/
  | hit (o : Obtained α)
  /-- A call starts, finds nothing, and asks the source. -/
  | ask
  /-- The call that asked at a place has its reply, and returns it. -/
  | complete (asked : Nat) (reply : Reply α)
  | invalidate

section
variable {α : Type}

/-- The call that asked at a place waits for its reply. -/
def Waiting (history : List (Event α)) (asked : Nat) : Prop :=
  ∃ past, .ask :: past <:+ history ∧ past.length = asked ∧
    ∀ reply, .complete asked reply ∉ history

/-- A call that started at a place returned an answer: one that the cache held,
or the one that it asked for itself. -/
inductive Returned (history : List (Event α)) : (started : Nat) → Obtained α → Prop where
  | hit {o : Obtained α} {past : List (Event α)} (h : .hit o :: past <:+ history) :
    Returned history past.length o
  | own {asked : Nat} {answer : α} {past : List (Event α)}
    (h : .complete asked (.value answer) :: past <:+ history) :
    Returned history asked ⟨answer, asked⟩

/-- Invalidations are final: a call that starts after one returns an answer that
was asked for after it. -/
def Final (history : List (Event α)) : Prop :=
  ∀ past started o, .invalidate :: past <:+ history → Returned history started o →
    past.length < started → past.length < o.asked

/-- What the cache holds was stored after the last invalidation. -/
def Fresh (history : List (Event α)) (o : Obtained α) : Prop :=
  ∃ past, .complete o.asked (.value o.answer) :: past <:+ history ∧
    ∀ before, .invalidate :: before <:+ history → before.length < past.length

/-! ### Places in a history -/

variable {history past other : List (Event α)} {e f : Event α} {o : Obtained α}

/-- Of two events the earlier one stands in the past of the later one. -/
theorem suffix_of_length_lt (he : e :: past <:+ history) (hf : f :: other <:+ history)
    (hlt : past.length < other.length) : e :: past <:+ other :=
  List.suffix_of_suffix_length_le he ((List.suffix_cons f other).trans hf) hlt

/-- There is one event at a place. -/
theorem event_unique (he : e :: past <:+ history) (hf : f :: other <:+ history)
    (heq : past.length = other.length) : e = f := by
  have hle : (e :: past).length ≤ (f :: other).length := by
    rw [List.length_cons, List.length_cons, heq]
  have hsuffix := List.suffix_of_suffix_length_le he hf hle
  have hcons := hsuffix.eq_of_length (by rw [List.length_cons, List.length_cons, heq])
  exact (List.cons.inj hcons).1

/-- What happens next leaves a fresh answer fresh, unless it is an
invalidation. -/
theorem Fresh.cons (h : Fresh history o) (hne : e ≠ .invalidate) : Fresh (e :: history) o := by
  obtain ⟨past, hstored, hlast⟩ := h
  refine ⟨past, hstored.trans (List.suffix_cons e history), fun before hbefore => ?_⟩
  rcases List.suffix_cons_iff.1 hbefore with heq | hsuffix
  · exact absurd (List.cons.inj heq).1.symm hne
  · exact hlast before hsuffix

/-- An answer is fresh when it is stored. -/
theorem fresh_complete {asked : Nat} {answer : α} :
    Fresh (.complete asked (.value answer) :: history) ⟨answer, asked⟩ := by
  refine ⟨history, List.suffix_rfl, fun before hbefore => ?_⟩
  rcases List.suffix_cons_iff.1 hbefore with heq | hsuffix
  · cases (List.cons.inj heq).1
  · exact hsuffix.length_le

end

/-! ### Runs -/

section
variable {α τ : Type} [Sub τ] [LE τ] [DecidableLE τ] (ttl : τ)

/-- What may happen to a cache at a time, after a history, and what that leaves
in it. -/
inductive Step (past : List (Event α)) (cache : Cache (Obtained α) τ) (now : τ) :
    Event α → Cache (Obtained α) τ → Prop where
  | hit {o : Obtained α} {left : Cache (Obtained α) τ}
    (found : cache.lookup now = (some o, left)) : Step past cache now (.hit o) left
  | ask {left : Cache (Obtained α) τ} (found : cache.lookup now = (none, left)) :
    Step past cache now .ask left
  | complete {asked : Nat} (waiting : Waiting past asked) (reply : Reply α) :
    Step past cache now (.complete asked reply) (cache.complete (obtained asked reply) now)
  | invalidate : Step past cache now .invalidate cache.invalidate

/-- A run from the creation of the cache on, under a clock that does not go
back. -/
inductive Run : List (Event α) → Cache (Obtained α) τ → τ → Prop where
  | start (now : τ) : Run [] ⟨ttl, none⟩ now
  | wait {past : List (Event α)} {cache : Cache (Obtained α) τ} {now later : τ}
    (h : Run past cache now) (forward : now ≤ later) : Run past cache later
  | step {past : List (Event α)} {cache left : Cache (Obtained α) τ} {now : τ} {e : Event α}
    (h : Run past cache now) (happens : Step past cache now e left) : Run (e :: past) left now

variable {ttl} {history past : List (Event α)} {cache left : Cache (Obtained α) τ} {now : τ}
  {e : Event α} {o : Obtained α}

/-- A look-up finds what is held, and keeps it; or it leaves nothing behind. -/
theorem lookup_cases (cache : Cache (Obtained α) τ) (now : τ) :
    (∃ o since, cache.held = some (o, since) ∧ cache.lookup now = (some o, cache)) ∨
      cache.lookup now = (none, cache.invalidate) := by
  by_cases hstale : Stale cache.ttl cache.held now
  · exact .inr (lookup_of_stale hstale)
  · exact .inl (lookup_of_not_stale hstale)

/-- An event of a run was a step from what had happened before. -/
theorem Run.exists_step (h : Run ttl history cache now) (hsuffix : e :: past <:+ history) :
    ∃ before left time, Run ttl past before time ∧ Step past before time e left := by
  induction h with
  | start _ => cases List.suffix_nil.1 hsuffix
  | wait _ _ ih => exact ih hsuffix
  | @step _ before left time _ h happens ih =>
    rcases List.suffix_cons_iff.1 hsuffix with heq | hsuffix
    · cases heq
      exact ⟨before, left, time, h, happens⟩
    · exact ih hsuffix

/-- Along a run the cache holds fresh answers only. -/
theorem Run.fresh {since : τ} (h : Run ttl history cache now)
    (hheld : cache.held = some (o, since)) : Fresh history o := by
  induction h generalizing since with
  | start _ => cases hheld
  | wait _ _ ih => exact ih hheld
  | @step _ before _ time _ _ happens ih =>
    cases happens with
    | hit found =>
      rcases lookup_cases before time with ⟨_, _, -, hlookup⟩ | hlookup
      · -- A look-up that finds something changes nothing.
        cases hlookup.symm.trans found
        exact (ih hheld).cons nofun
      · cases hlookup.symm.trans found
    | ask found =>
      rcases lookup_cases before time with ⟨_, _, -, hlookup⟩ | hlookup
      · cases hlookup.symm.trans found
      · cases hlookup.symm.trans found
        cases hheld
    | complete waiting reply =>
      cases reply with
      | value answer =>
        cases hheld
        exact fresh_complete
      | failure f => exact (ih hheld).cons nofun
      | never => exact (ih hheld).cons nofun
    | invalidate => cases hheld

/-- An answer that a call finds is fresh. -/
theorem Run.fresh_of_hit (h : Run ttl history cache now) (hhit : .hit o :: past <:+ history) :
    Fresh past o := by
  obtain ⟨before, left, time, hbefore, happens⟩ := h.exists_step hhit
  cases happens with
  | hit found =>
    rcases lookup_cases before time with ⟨_, since, hheld, hlookup⟩ | hlookup
    · cases hlookup.symm.trans found
      exact hbefore.fresh hheld
    · cases hlookup.symm.trans found

/-- A call that completes had been waiting. -/
theorem Run.waiting_of_complete {asked : Nat} {reply : Reply α} (h : Run ttl history cache now)
    (hcomplete : .complete asked reply :: past <:+ history) : Waiting past asked := by
  obtain ⟨before, left, time, -, happens⟩ := h.exists_step hcomplete
  cases happens with
  | complete waiting _ => exact waiting

/-- A call that waits had asked before. -/
theorem Waiting.lt_length {asked : Nat} (h : Waiting history asked) : asked < history.length := by
  obtain ⟨past, hasked, hplace, -⟩ := h
  have hle := hasked.length_le
  rw [List.length_cons] at hle
  omega

/-- The calls that have completed had asked before now. -/
theorem Run.asked_lt_length {asked : Nat} {reply : Reply α} (h : Run ttl history cache now)
    (hmem : .complete asked reply ∈ history) : asked < history.length := by
  obtain ⟨later, past, rfl⟩ := List.append_of_mem hmem
  have hlt := (h.waiting_of_complete (List.suffix_append later _)).lt_length
  rw [List.length_append, List.length_cons]
  omega

/-- A call that has just asked is waiting. -/
theorem Run.waiting_of_ask (h : Run ttl past cache now) : Waiting (.ask :: past) past.length := by
  refine ⟨past, List.suffix_rfl, rfl, fun reply hmem => ?_⟩
  have hpast := (List.mem_cons.1 hmem).resolve_left nofun
  exact absurd (h.asked_lt_length hpast) (Nat.lt_irrefl _)

/-- A fetch that nothing interrupts is a hit, or a question and its reply, and
returns what these say. -/
theorem Run.fetch {σ : Type} {name : String} {clock : σ → τ} {source : Source σ α}
    {range : Option TimeRange} {s : σ} (h : Run ttl past cache (clock s))
    (forward : clock s ≤
      clock (cached name clock (marking past.length source) range (cache, s)).state.2) :
    ∃ events, Run ttl (events ++ past)
        (cached name clock (marking past.length source) range (cache, s)).state.1
        (clock (cached name clock (marking past.length source) range (cache, s)).state.2) ∧
      ((∃ o, events = [.hit o] ∧
          (cached name clock (marking past.length source) range (cache, s)).reply = .value o) ∨
        ∃ reply, events = [.complete past.length reply, .ask] ∧
          (cached name clock (marking past.length source) range (cache, s)).reply =
            obtained past.length reply) := by
  rcases lookup_cases cache (clock s) with ⟨o, since, hheld, hlookup⟩ | hlookup
  · rw [cached_of_lookup_some name clock _ range hlookup]
    exact ⟨[.hit o], h.step (.hit hlookup), .inl ⟨o, rfl, rfl⟩⟩
  · rw [cached_of_lookup_none name clock _ range hlookup rfl] at forward ⊢
    have hasked := (h.step (.ask hlookup)).wait forward
    exact ⟨_, hasked.step (.complete h.waiting_of_ask _), .inr ⟨_, rfl, rfl⟩⟩

/-- A call that finds its answer after an invalidation finds one that was asked
for after it, or one whose fetch was under way at the invalidation and completed
after it. -/
theorem Run.hit_asked_after_or_waiting {before : List (Event α)} (h : Run ttl history cache now)
    (hinvalidated : .invalidate :: past <:+ history) (hhit : .hit o :: before <:+ history)
    (hafter : past.length < before.length) :
    past.length < o.asked ∨
      Waiting past o.asked ∧ ∃ later, .complete o.asked (.value o.answer) :: later <:+ history ∧
        past.length < later.length := by
  have hbefore := (List.suffix_cons _ _).trans hhit
  obtain ⟨later, hstored, hlast⟩ := h.fresh_of_hit hhit
  have hcomplete := hstored.trans hbefore
  have hlater := hlast past (suffix_of_length_lt hinvalidated hhit hafter)
  obtain ⟨asking, hasked, hplace, hopen⟩ := h.waiting_of_complete hcomplete
  -- What was asked for before the invalidation, and stored after it, was under way at it.
  have hpast := suffix_of_length_lt hinvalidated hcomplete hlater
  rcases Nat.lt_trichotomy past.length asking.length with hlt | heq | hgt
  · exact .inl (hplace ▸ hlt)
  · cases event_unique hpast hasked heq
  · have hsuffix := suffix_of_length_lt hasked hpast hgt
    have hwaiting : Waiting past o.asked := by
      refine ⟨asking, hsuffix, hplace, fun reply hmem => hopen reply ?_⟩
      exact ((List.suffix_cons _ _).trans hpast).mem hmem
    exact .inr ⟨hwaiting, later, hcomplete, hlater⟩

/-- A call that starts after an invalidation returns an answer that was asked
for after it, or one whose fetch was under way at the invalidation. -/
theorem Run.returned_asked_after_or_waiting {started : Nat} (h : Run ttl history cache now)
    (hinvalidated : .invalidate :: past <:+ history) (hreturned : Returned history started o)
    (hafter : past.length < started) :
    past.length < o.asked ∨
      Waiting past o.asked ∧ ∃ later, .complete o.asked (.value o.answer) :: later <:+ history ∧
        past.length < later.length := by
  cases hreturned with
  | own _ => exact .inl hafter
  | hit hhit => exact h.hit_asked_after_or_waiting hinvalidated hhit hafter

/-- After an invalidation a call returns an answer that was asked for after it,
or one whose fetch was under way at the invalidation and completed after it. So
an invalidation is final while no fetch is under way. -/
theorem asked_after_or_waiting (h : Run ttl history cache now) :
    (∀ past started o, .invalidate :: past <:+ history → Returned history started o →
      past.length < started →
      past.length < o.asked ∨
        Waiting past o.asked ∧ ∃ later,
          .complete o.asked (.value o.answer) :: later <:+ history ∧
            past.length < later.length) ∧
    ((∀ past, .invalidate :: past <:+ history → ∀ asked, ¬ Waiting past asked) →
      Final history) := by
  refine ⟨fun past started o => h.returned_asked_after_or_waiting, ?_⟩
  intro hidle past started o hinvalidated hreturned hafter
  rcases h.returned_asked_after_or_waiting hinvalidated hreturned hafter with hasked | ⟨hwaiting, -⟩
  · exact hasked
  · exact absurd hwaiting (hidle past hinvalidated _)

end

/-! ### A fetch that an invalidation overtakes -/

/-- A fetch starts, the cache is invalidated, the fetch completes, and another
call starts. -/
def overtaken : List (Event Snapshot) :=
  [.hit ⟨oneMetric, 0⟩, .complete 0 (.value oneMetric), .invalidate, .ask]

/-- What is left in the cache after that, one second for each event. -/
def overtakenCache : Cache (Obtained Snapshot) ℤ := ⟨60, some (⟨oneMetric, 0⟩, 2)⟩

/-- The events make a run: the fetch that started first completes after the invalidation. -/
theorem run_overtaken : Run 60 overtaken overtakenCache 3 := by
  have hasked : Run 60 [.ask] (⟨60, none⟩ : Cache (Obtained Snapshot) ℤ) 0 :=
    (Run.start 0).step (.ask rfl)
  have hinvalidated : Run 60 [.invalidate, .ask] (⟨60, none⟩ : Cache (Obtained Snapshot) ℤ) 2 :=
    ((hasked.wait (by decide)).step .invalidate).wait (by decide : (1 : ℤ) ≤ 2)
  have hwaiting : Waiting [.invalidate, (.ask : Event Snapshot)] 0 :=
    ⟨[], List.suffix_cons _ _, rfl, fun _ hmem => by simp at hmem⟩
  have hcompleted : Run 60 [.complete 0 (.value oneMetric), .invalidate, .ask] overtakenCache 3 :=
    (hinvalidated.step (.complete hwaiting (.value oneMetric))).wait (by decide)
  exact hcompleted.step (.hit rfl)

/-- The second fetch returns the first one's snapshot. -/
theorem returned_overtaken : Returned overtaken 3 ⟨oneMetric, 0⟩ := .hit List.suffix_rfl

/-- The invalidation came after that snapshot was asked for. -/
theorem invalidated_overtaken : .invalidate :: [.ask] <:+ overtaken :=
  ⟨[.hit ⟨oneMetric, 0⟩, .complete 0 (.value oneMetric)], rfl⟩

/-- An invalidation is not final: the second call returns the answer that the
first one asked for before it. -/
theorem not_final_overtaken : Run 60 overtaken overtakenCache 3 ∧ ¬ Final overtaken :=
  ⟨run_overtaken, fun h =>
    absurd (h _ _ _ invalidated_overtaken returned_overtaken (by decide)) (by decide)⟩

/-- The second call returns that answer because its fetch was under way at the
invalidation. -/
theorem waiting_overtaken :
    Run 60 overtaken overtakenCache 3 ∧ Waiting [(.ask : Event Snapshot)] 0 := by
  obtain ⟨hmain, -⟩ := asked_after_or_waiting run_overtaken
  rcases hmain _ _ _ invalidated_overtaken returned_overtaken (by decide) with hlt | ⟨hwaiting, -⟩
  · exact absurd hlt (by decide)
  · exact ⟨run_overtaken, hwaiting⟩

end Interleaved

end QueryGuard.Cache
