import Mathlib.Data.List.Forall2
import QueryGuard.Metadata.Backend
import QueryGuard.Proofs.Json.Entries
import QueryGuard.Proofs.Metrics.Count

/-!
# `QueryGuard.Proofs.Metadata.Failures`: how a backend fails, and what is counted

A provider promises to fail as unavailable and in no other way. Its caller relies on
that to tell a backend that is down from a provider that is broken, and the counter of
failures relies on it as well, for it is moved where an unavailable backend is reported.

There is one kind of answer that breaks the promise. A count can be written so large
that it is read as infinite, and an infinite count has no whole number. The fetch then
ends in an overflow that is not counted. `Tsdb.snapshot_eq_infinite_iff` is the exact
condition on a status document, and `Backend.ends_fetch` carries it to one fetch: a
snapshot, an unavailable backend, or an overflow of the answer delivered.

`Backend.count_fetches` is about any number of fetches in a row, over any transport.
Every fetch is counted. The failures counted fall short of the fetches without a
snapshot by the number of overflows, and there are as many of these as there are such
answers.
-/

set_option autoImplicit false

namespace QueryGuard

/-! ### Documents that state an infinite count -/

namespace Tsdb

/-- What the count of an entry turns out to be; a count that is left out is zero. -/
def entryReading (entry : Json) : CountReading :=
  readCount ((entry.field? "value").getD (.int 0))

/-- The entry has a name and a count. -/
structure Countable (entry : Json) : Prop where
  named : (entry.field? "name").isSome = true
  counted : ∃ n, entryReading entry = .count n

/-- The entry has a name, and its count is infinite. -/
structure StatesInfinity (entry : Json) : Prop where
  named : (entry.field? "name").isSome = true
  infinite : entryReading entry = .infinite

/-- Of the entries that give no count, the first states an infinite one. -/
inductive EntriesOverflow : List Json → Prop
  | here {entry : Json} {rest : List Json} (infinite : StatesInfinity entry) :
      EntriesOverflow (entry :: rest)
  | later {entry : Json} {rest : List Json} (countable : Countable entry)
      (overflow : EntriesOverflow rest) : EntriesOverflow (entry :: rest)

/-- A row of entries overflows whatever was counted before it. -/
theorem addEntries_eq_infinite_iff {field : String} {entries : List Json} (counts : Counts) :
    addEntries field counts entries = .error .infinite ↔ EntriesOverflow entries := by
  induction entries generalizing counts with
  | nil => exact iff_of_false nofun nofun
  | cons entry rest ih =>
    -- Only an entry with a name and a count lets the row go on.
    unfold addEntries
    cases hname : entry.field? "name" with
    | none =>
      have hunnamed : ¬ (entry.field? "name").isSome = true := by
        rw [hname]
        exact nofun
      refine iff_of_false nofun ?_
      intro hover
      cases hover with
      | here infinite => exact hunnamed infinite.named
      | later countable _ => exact hunnamed countable.named
    | some name =>
      have hnamed : (entry.field? "name").isSome = true := by rw [hname]; rfl
      simp only
      cases hreading : entryReading entry with
      | count n =>
        have hcount : readCount ((entry.field? "value").getD (.int 0)) = .count n := hreading
        rw [hcount]
        refine (ih _).trans ⟨.later ⟨hnamed, n, hreading⟩, ?_⟩
        intro hover
        cases hover with
        | here infinite => cases hreading.symm.trans infinite.infinite
        | later _ overflow => exact overflow
      | notNumeric =>
        have hnone : readCount ((entry.field? "value").getD (.int 0)) = .notNumeric := hreading
        rw [hnone]
        refine iff_of_false nofun ?_
        intro hover
        cases hover with
        | here infinite => cases hreading.symm.trans infinite.infinite
        | later countable _ =>
          obtain ⟨n, hcount⟩ := countable.counted
          cases hreading.symm.trans hcount
      | infinite =>
        have hinfinite : readCount ((entry.field? "value").getD (.int 0)) = .infinite := hreading
        rw [hinfinite]
        exact iff_of_true rfl (.here ⟨hnamed, hreading⟩)

/-- A statistic that lists entries which overflow. -/
def StatisticOverflows (statistic : Option Json) : Prop :=
  ∃ entries, statistic = some (.array entries) ∧ EntriesOverflow entries

/-- Decoding a statistic ends with an infinite count exactly when its row of entries overflows. -/
theorem statistic_eq_infinite_iff {field : String} {part : Option Json} :
    statistic field part = .error .infinite ↔ StatisticOverflows part := by
  -- A missing and a null statistic count nothing; only a list has entries to overflow.
  unfold statistic
  split
  · exact iff_of_false nofun nofun
  · exact iff_of_false nofun nofun
  · next entries =>
    refine (addEntries_eq_infinite_iff Counts.empty).trans ⟨fun h => ⟨entries, rfl, h⟩, ?_⟩
    intro h
    obtain ⟨other, hother, hoverflow⟩ := h
    cases hother
    exact hoverflow
  · next part _ hlist =>
    refine iff_of_false nofun ?_
    intro h
    obtain ⟨entries, hentries, -⟩ := h
    exact hlist entries (Option.some.inj hentries)

/-- A complete status document of which a statistic overflows. The labels count only
if the series are in order. -/
structure Overflows (payload data : Json) : Prop where
  complete : payload.field? "status" = some (.string "success")
  stated : payload.field? "data" = some data
  overflow : StatisticOverflows (data.field? seriesField)
    ∨ (∃ series, statistic seriesField (data.field? seriesField) = .ok series)
      ∧ StatisticOverflows (data.field? labelsField)

/-- Only the string itself counts as success. -/
theorem isSuccess_iff {status : Json} : isSuccess status = true ↔ status = .string "success" := by
  cases status <;> simp [isSuccess]

/-- The statistics are read one after the other. -/
theorem statistics_eq_infinite_iff {series labels : Option Json} :
    (do
      let series ← statistic seriesField series
      let labels ← statistic labelsField labels
      return (⟨series, labels⟩ : Snapshot)) = .error .infinite ↔
    StatisticOverflows series
      ∨ (∃ counts, statistic seriesField series = .ok counts)
        ∧ StatisticOverflows labels := by
  have hseries : statistic seriesField series = .error .infinite ↔ StatisticOverflows series :=
    statistic_eq_infinite_iff
  have hlabels : statistic labelsField labels = .error .infinite ↔ StatisticOverflows labels :=
    statistic_eq_infinite_iff
  -- Both sides now speak of the two decodings, so the cases are what these give.
  rw [← hseries, ← hlabels]
  cases statistic seriesField series with
  | error e =>
    constructor
    · intro h
      cases h
      exact .inl rfl
    · rintro (h | ⟨⟨counts, h⟩, -⟩)
      · cases h
        rfl
      · cases h
  | ok counts =>
    -- The labels are decoded only once the series are in order.
    cases statistic labelsField labels with
    | error e =>
      constructor
      · intro h
        cases h
        exact .inr ⟨⟨counts, rfl⟩, rfl⟩
      · rintro (h | ⟨-, h⟩)
        · cases h
        · cases h
          rfl
    | ok _ =>
      refine iff_of_false nofun ?_
      rintro (h | ⟨-, h⟩) <;> cases h

/-- A statistic that is absent cannot overflow. -/
theorem StatisticOverflows.exists_field? {statistic : Option Json}
    (h : StatisticOverflows statistic) : ∃ v, statistic = some v := by
  obtain ⟨entries, hentries, -⟩ := h
  exact ⟨_, hentries⟩

/-- What overflows is an object, for only an object has statistics. -/
theorem Overflows.exists_entries? {payload data : Json} (h : Overflows payload data) :
    ∃ entries, data.entries? = some entries := by
  rcases h.overflow with hseries | ⟨-, hlabels⟩
  · obtain ⟨v, hv⟩ := hseries.exists_field?
    exact Json.exists_entries?_of_field? hv
  · obtain ⟨v, hv⟩ := hlabels.exists_field?
    exact Json.exists_entries?_of_field? hv

/-- The whole payload overflows through either of its two statistics, and in no other way. -/
theorem snapshot_eq_infinite_iff {payload : Json} :
    snapshot payload = .error .infinite ↔ ∃ data, Overflows payload data := by
  -- The decoder looks at the status, then at the data, then at the statistics. An overflow
  -- has all three in order, so each earlier failure refutes it.
  unfold snapshot
  split
  · next entries _ =>
    simp only
    split
    · next hfailed =>
      refine iff_of_false nofun ?_
      rintro ⟨data, hcomplete, -⟩
      rw [hcomplete] at hfailed
      exact absurd hfailed (by decide)
    · next hcomplete =>
      have hstatus : payload.field? "status" = some (.string "success") := by
        cases hfield : payload.field? "status" with
        | none => simp [hfield, isSuccess] at hcomplete
        | some status => simpa [hfield, isSuccess_iff] using hcomplete
      cases hdata : payload.field? "data" with
      | none =>
        refine iff_of_false nofun ?_
        rintro ⟨data, -, hstated, -⟩
        cases hdata.symm.trans hstated
      -- A field has one value, so the data that overflows is the data that is read.
      | some data =>
        have hsame {other : Json} (h : Overflows payload other) : other = data :=
          Option.some.inj (h.stated.symm.trans hdata)
        rw [Option.getD_some]
        split
        · refine statistics_eq_infinite_iff.trans ⟨fun h => ⟨data, hstatus, hdata, h⟩, ?_⟩
          rintro ⟨other, h⟩
          exact hsame h ▸ h.overflow
        · next hnone =>
          refine iff_of_false nofun ?_
          rintro ⟨other, h⟩
          obtain ⟨entries, hentries⟩ := h.exists_entries?
          cases hnone.symm.trans (hsame h ▸ hentries)
  · next hnone =>
    refine iff_of_false nofun ?_
    rintro ⟨data, hcomplete, -⟩
    obtain ⟨entries, hentries⟩ := Json.exists_entries?_of_field? hcomplete
    cases hnone.symm.trans hentries

end Tsdb

/-! ### One fetch -/

namespace Reply

variable {α : Type}

/-- What was asked for is there. -/
def isValue : Reply α → Bool
  | .value _ => true
  | _ => false

/-- The backend is reported as unavailable. -/
def isUnavailable : Reply α → Bool
  | .failure (.unavailable _) => true
  | _ => false

end Reply

namespace Backend

/-- The body is a status document of which a statistic overflows. -/
def BodyOverflows (body : String) : Prop :=
  ∃ payload, Json.decodeBody body = .ok payload ∧ ∃ data, Tsdb.Overflows payload data

/-- An answer that looks like a success, and cannot be made a snapshot of nor refused. -/
inductive Delivery.Overflows : Delivery → Prop
  | response {status : Int} {body : String} (success : isSuccess status = true)
      (overflow : BodyOverflows body) : Overflows (.response status body)

/-- The error that an infinite count ends in. -/
def overflowFault : FetchFailure := .fault ⟨"OverflowError", TsdbError.infinite.message⟩

/-- How a fetch ends that the answer was delivered to. -/
inductive Ends (delivery : Delivery) : Reply Snapshot → Prop
  | snapshot {found : Snapshot} (fine : ¬ delivery.Overflows) : Ends delivery (.value found)
  | unavailable {detail : Wording} (fine : ¬ delivery.Overflows) :
      Ends delivery (.failure (.unavailable detail))
  | overflow (overflow : delivery.Overflows) : Ends delivery (.failure overflowFault)

/-- The only error that leaves the backend available is an infinite count. -/
theorem isUnavailable_iff {e : TsdbError} : e.isUnavailable = true ↔ e ≠ .infinite := by
  cases e <;> simp [TsdbError.isUnavailable]

/-- Reading a response's body ends as the response says. -/
theorem ends_readBody {status : Int} (hstatus : isSuccess status = true) (body : String) :
    Ends (.response status body) (readBody body) := by
  have hiff : Delivery.Overflows (.response status body) ↔ BodyOverflows body :=
    ⟨fun h => by cases h; assumption, .response hstatus⟩
  unfold readBody
  cases hdecode : Json.decodeBody body with
  | error e =>
    refine .unavailable fun h => ?_
    obtain ⟨payload, hpayload, -⟩ := hiff.1 h
    cases hdecode.symm.trans hpayload
  | ok payload =>
    -- The body is decoded to one document, and that one decides.
    have hbody : BodyOverflows body ↔ Tsdb.snapshot payload = .error .infinite := by
      rw [Tsdb.snapshot_eq_infinite_iff]
      refine ⟨?_, fun h => ⟨payload, hdecode, h⟩⟩
      rintro ⟨other, hother, hoverflow⟩
      cases hdecode.symm.trans hother
      exact hoverflow
    rw [hbody] at hiff
    cases hsnapshot : Tsdb.snapshot payload with
    | ok found =>
      simp only [hsnapshot]
      refine .snapshot fun h => ?_
      cases hsnapshot.symm.trans (hiff.1 h)
    | error e =>
      simp only [hsnapshot]
      by_cases hinfinite : e = .infinite
      · subst hinfinite
        exact .overflow (hiff.2 hsnapshot)
      · rw [if_pos (isUnavailable_iff.2 hinfinite)]
        refine .unavailable fun h => hinfinite ?_
        cases hsnapshot.symm.trans (hiff.1 h)
        rfl

/-- So does receiving any delivery, one that never came included. -/
theorem ends_receive (c : Config) (delivery : Delivery) : Ends delivery (receive c delivery).1 := by
  cases delivery with
  | broken reason => exact .unavailable nofun
  | response status body =>
    unfold receive
    simp only
    -- The body is read only under a status of success.
    by_cases hstatus : isSuccess status = true
    · rw [if_pos hstatus]
      split
      · next found hread => exact hread ▸ ends_readBody hstatus body
      · exact ends_readBody hstatus body
    · rw [if_neg hstatus]
      refine .unavailable fun h => ?_
      cases h with
      | response success => exact hstatus success

variable {σ : Type}

/-- One fetch written out: the request, what its delivery is received as, and the records
around it. -/
theorem provider_eq (c : Config) (transport : Transport σ) (range : Option TimeRange) (s : σ) :
    provider c transport range s =
      ⟨(receive c (transport c.request s).1).1,
        (range.map fun r => Event.record (rangeRecord c r)).toList
          ++ closing c (receive c (transport c.request s).1).1
            (receive c (transport c.request s).1).2,
        (transport c.request s).2⟩ := rfl

/-- The end of one fetch is settled by what the transport delivers to it. -/
theorem ends_fetch (c : Config) (transport : Transport σ) (range : Option TimeRange) (s : σ) :
    Ends (transport c.request s).1 (provider c transport range s).reply :=
  ends_receive c _

/-! ### What a fetch counts -/

/-- The labels of the two counters of fetches. -/
def counterLabels : Fields String := [("provider", providerName)]

/-- The events of a fetch move what the fetch itself moves, and what a failure moves if
the backend is unavailable. All others are records. -/
theorem count_closing (c : Config) (reply : Reply Snapshot) (records : List Log.Record)
    (name : String) (labels : Fields String) :
    (closing c reply records).count name labels =
      (if reply.isUnavailable = true
          ∧ Journal.moved? (.fetchFailure providerName) = some (name, labels) then 1 else 0)
        + if Journal.moved? (.fetch providerName) = some (name, labels) then 1 else 0 := by
  have hfetch (later : Journal) : Journal.count (.fetch providerName :: later) name labels = _ :=
    Journal.count_cons _
  have hfailure (later : Journal) :
      Journal.count (.fetchFailure providerName :: later) name labels = _ := Journal.count_cons _
  unfold closing
  split <;>
    simp [Journal.count_append, Journal.count_records, hfetch, hfailure, Reply.isUnavailable,
      Nat.add_comm]

/-- The same holds of a fetch as a whole, for it opens with a record at most. -/
theorem count_provider (c : Config) (transport : Transport σ) (range : Option TimeRange) (s : σ)
    (name : String) (labels : Fields String) :
    (provider c transport range s).journal.count name labels =
      (if (provider c transport range s).reply.isUnavailable = true
          ∧ Journal.moved? (.fetchFailure providerName) = some (name, labels) then 1 else 0)
        + if Journal.moved? (.fetch providerName) = some (name, labels) then 1 else 0 := by
  have hopening : Journal.count
      (range.map fun r => Event.record (rangeRecord c r)).toList name labels = 0 := by
    cases range <;> rfl
  rw [provider_eq]
  show Journal.count (_ ++ closing c _ _) name labels = _
  rw [Journal.count_append, hopening, Nat.zero_add, count_closing]

/-- One fetch moves the counter of fetches once, and that of failures if the backend is
reported as unavailable. -/
theorem count_fetch (c : Config) (transport : Transport σ) (range : Option TimeRange) (s : σ) :
    let call := provider c transport range s
    call.journal.count Journal.fetchCounter counterLabels = 1
      ∧ call.journal.count Journal.failureCounter counterLabels
          = if call.reply.isUnavailable then 1 else 0 := by
  have hfetch : Journal.moved? (.fetch providerName) = some (Journal.fetchCounter, counterLabels) :=
    rfl
  have hfailure : Journal.moved? (.fetchFailure providerName)
      = some (Journal.failureCounter, counterLabels) := rfl
  have hne : Journal.fetchCounter ≠ Journal.failureCounter := by decide
  intro call
  constructor
  · rw [count_provider, hfetch, hfailure]
    simp [hne.symm]
  · rw [count_provider, hfetch, hfailure]
    simp [hne, call]

end Backend

/-! ### Fetches in a row -/

/-- The ends of fetches for some ranges, each made in the state that the one before it
left. -/
def Source.fetches {σ α : Type} (source : Source σ α) :
    List (Option TimeRange) → σ → List (Fetched σ α)
  | [], _ => []
  | range :: rest, s => source range s :: source.fetches rest (source range s).state

namespace Backend

variable {σ : Type}

/-- What a transport delivers to requests in a row. -/
def Transport.deliveries (transport : Transport σ) (request : Request) :
    Nat → σ → List Delivery
  | 0, _ => []
  | n + 1, s => (transport request s).1 :: deliveries transport request n (transport request s).2

/-- The counters of a run add up from its fetches. -/
theorem count_fetches_eq (c : Config) (transport : Transport σ) (ranges : List (Option TimeRange))
    (s : σ) :
    let calls := (provider c transport).fetches ranges s
    let journal : Journal := calls.flatMap (·.journal)
    journal.count Journal.fetchCounter counterLabels = ranges.length
      ∧ journal.count Journal.failureCounter counterLabels
          = calls.countP (·.reply.isUnavailable) := by
  induction ranges generalizing s with
  | nil => exact ⟨rfl, rfl⟩
  | cons range rest ih =>
    obtain ⟨hfetch, hfailure⟩ := count_fetch c transport range s
    obtain ⟨hfetches, hfailures⟩ := ih (provider c transport range s).state
    simp only [Source.fetches, List.flatMap_cons, List.countP_cons, List.length_cons]
    rw [Journal.count_append, Journal.count_append, hfetch, hfailure, hfetches, hfailures]
    exact ⟨Nat.add_comm _ _, Nat.add_comm _ _⟩

/-- Every fetch of a run is settled by what was delivered to it. -/
theorem ends_fetches (c : Config) (transport : Transport σ) (ranges : List (Option TimeRange))
    (s : σ) :
    List.Forall₂ (fun delivery call => Ends delivery call.reply)
      (transport.deliveries c.request ranges.length s)
      ((provider c transport).fetches ranges s) := by
  induction ranges generalizing s with
  | nil => exact .nil
  | cons range rest ih => exact .cons (ends_fetch c transport range s) (ih _)

/-- As many failures are reported as there are fetches without a snapshot, unless an
answer overflows. -/
theorem countP_isUnavailable_eq_iff {deliveries : List Delivery}
    {calls : List (Fetched σ Snapshot)}
    (h : List.Forall₂ (fun delivery call => Ends delivery call.reply) deliveries calls) :
    calls.countP (·.reply.isUnavailable) = calls.countP (!·.reply.isValue)
      ↔ ∀ delivery ∈ deliveries, ¬ delivery.Overflows := by
  induction h with
  | nil => exact iff_of_true rfl nofun
  | @cons delivery call deliveries calls hends hrest ih =>
    have hle : calls.countP (·.reply.isUnavailable) ≤ calls.countP (!·.reply.isValue) := by
      refine List.countP_mono_left fun call _ hcall => ?_
      cases hreply : call.reply <;> simp_all [Reply.isUnavailable, Reply.isValue]
    rw [List.countP_cons, List.countP_cons, List.forall_mem_cons, ← ih]
    generalize hreply : call.reply = reply at hends
    cases hends with
    | snapshot fine => simp [Reply.isUnavailable, Reply.isValue, fine]
    | unavailable fine => simp [Reply.isUnavailable, Reply.isValue, fine]
    | overflow overflow =>
      -- One fetch more without a snapshot, and no failure more.
      refine iff_of_false ?_ fun h => h.1 overflow
      show ¬ calls.countP (·.reply.isUnavailable) + 0 = calls.countP (!·.reply.isValue) + 1
      omega

/-- Fetches in a row end in snapshots or with an unavailable backend, except where an
infinite count is delivered. Each of them is counted, and so is each unavailable backend.
All fetches without a snapshot are counted as failures exactly if there is no such
exception. -/
theorem count_fetches (c : Config) (transport : Transport σ) (ranges : List (Option TimeRange))
    (s : σ) :
    let deliveries := transport.deliveries c.request ranges.length s
    let calls := (provider c transport).fetches ranges s
    let journal : Journal := calls.flatMap (·.journal)
    List.Forall₂ (fun delivery call => Ends delivery call.reply) deliveries calls
      ∧ journal.count Journal.fetchCounter counterLabels = ranges.length
      ∧ journal.count Journal.failureCounter counterLabels
          = calls.countP (·.reply.isUnavailable)
      ∧ (journal.count Journal.failureCounter counterLabels = calls.countP (!·.reply.isValue)
          ↔ ∀ delivery ∈ deliveries, ¬ delivery.Overflows) := by
  have hends := ends_fetches c transport ranges s
  obtain ⟨hfetches, hfailures⟩ := count_fetches_eq c transport ranges s
  refine ⟨hends, hfetches, hfailures, ?_⟩
  rw [hfailures]
  exact countP_isUnavailable_eq_iff hends

/-- A status document in which the series of a metric have an infinite number. -/
def infiniteBody : String :=
  "\x7b\"status\":\"success\",\"data\":\x7b\"seriesCountByMetricName\":" ++
    "[\x7b\"name\":\"up\",\"value\":1e999\x7d]\x7d\x7d"

/-- A transport that delivers this document, and counts how often. -/
def infiniteTransport : Transport Nat := fun _ n => (.response 200 infiniteBody, n + 1)

/-- The infinite count is a fault of the reader, not metadata that is unavailable. -/
theorem readBody_infiniteBody : readBody infiniteBody = .failure overflowFault := by
  decide +kernel

/-- A fetch from it ends with that fault, and with the records of any other end. -/
theorem fetch_infiniteTransport (c : Config) :
    provider c infiniteTransport none 0
      = ⟨.failure overflowFault, closing c (.failure overflowFault) [], 1⟩ := by
  have hreceive : receive c (.response 200 infiniteBody) = (.failure overflowFault, []) := by
    unfold receive
    simp only
    rw [if_pos (by decide), readBody_infiniteBody]
  rw [provider_eq]
  unfold infiniteTransport
  simp only [hreceive]
  rfl

/-- A fetch that is delivered an infinite count has no snapshot and leaves the backend
available, and it is not counted as a failure. -/
theorem fetches_infinite :
    let config : Config := { baseUrl := "http://prom:9090" }
    let calls := (provider config infiniteTransport).fetches [none] 0
    let journal : Journal := calls.flatMap (·.journal)
    calls.map (·.reply) = [.failure overflowFault]
      ∧ journal.count Journal.fetchCounter counterLabels = 1
      ∧ journal.count Journal.failureCounter counterLabels = 0
      ∧ calls.countP (!·.reply.isValue) = 1 := by
  intro config calls journal
  have hcalls : calls = [⟨.failure overflowFault, closing _ (.failure overflowFault) [], 1⟩] :=
    congrArg (fun call => [call]) (fetch_infiniteTransport _)
  -- The counters follow from the replies, so they need no evaluation of the journal.
  obtain ⟨hfetches, hfailures⟩ := count_fetches_eq _ infiniteTransport [none] 0
  refine ⟨?_, hfetches, hfailures.trans ?_, ?_⟩
  · rw [hcalls]
    rfl
  · show calls.countP (·.reply.isUnavailable) = 0
    rw [hcalls]
    rfl
  · rw [hcalls]
    rfl

end Backend

end QueryGuard
