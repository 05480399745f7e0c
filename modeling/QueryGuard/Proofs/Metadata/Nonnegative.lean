import QueryGuard.Metadata.Tsdb
import QueryGuard.Proofs.Metadata.Counts
import QueryGuard.Proofs.Validation.Relevance

/-!
# `QueryGuard.Proofs.Metadata.Nonnegative`: can a count be less than zero?

The rules ask whether a count is zero and whether it exceeds a limit. A count
below zero passes both, so that a query about a metric without any series would
be safe. Snapshots come from documents of two forms (`Snapshot.Decoded`), and
only one of them keeps such counts out.

A snapshot file does: its reader refuses them. The status of a database does
not: a negative number is read like any other, and `isSafe_negativeStatus` is a
query that passes because of one. `nonnegative_of_decoded` says what does hold.
The snapshot of a file has no negative counts, nor does that of a status
document which states none; and then a safe query refers only to metrics with
one series at least.
-/

set_option autoImplicit false

namespace QueryGuard

namespace Counts

/-- No count is less than zero. -/
def Nonnegative (counts : Counts) : Prop := ∀ e ∈ counts.entries, 0 ≤ e.2

/-- Counting nothing counts nothing below zero. -/
theorem nonnegative_empty : empty.Nonnegative := nofun

/-- An entry after an insertion is the new one or an old one. -/
theorem mem_insertEntry {name : Wording} {count : Int} {entries : List (Wording × Int)}
    {e : Wording × Int} (h : e ∈ insertEntry name count entries) :
    e = (name, count) ∨ e ∈ entries := by
  induction entries with
  | nil => exact .inl (List.mem_singleton.1 h)
  | cons f rest ih =>
    obtain ⟨n, c⟩ := f
    -- The entry goes in front, in place of one, or further back.
    unfold insertEntry at h
    split at h
    · exact List.mem_cons.1 h
    · split at h
      · exact (List.mem_cons.1 h).imp_right (List.mem_cons_of_mem _)
      · rcases List.mem_cons.1 h with rfl | h
        · exact .inr List.mem_cons_self
        · exact (ih h).imp_right (List.mem_cons_of_mem _)

/-- Inserting a natural count keeps counts from going below zero. -/
theorem Nonnegative.insert {counts : Counts} (h : counts.Nonnegative) (name : Wording)
    {count : Int} (hcount : 0 ≤ count) : (counts.insert name count).Nonnegative := by
  intro e he
  rcases mem_insertEntry he with rfl | hmem
  · exact hcount
  · exact h e hmem

/-- What is looked up is then never negative. -/
theorem Nonnegative.get? {counts : Counts} (h : counts.Nonnegative) {name : Wording} {count : Int}
    (hcount : counts.get? name = some count) : 0 ≤ count :=
  h _ (get?_eq_some_iff.1 hcount)

end Counts

/-- Neither series nor values of labels are less than none. -/
structure Snapshot.Nonnegative (snapshot : Snapshot) : Prop where
  series : snapshot.series.Nonnegative
  labels : snapshot.labels.Nonnegative

/-! ### Snapshot files -/

namespace Snapshot

/-- A file's count is refused when it is negative. -/
theorem nonneg_of_count? {j : Json} {n : Int} (h : count? j = some n) : 0 ≤ n := by
  unfold count? at h
  split at h
  · split at h
    · next hnonneg =>
      cases h
      exact hnonneg
    · cases h
  · cases h

/-- A file's section adds no negative count. -/
theorem nonnegative_of_addCounts {part : String} {entries : List (Wording × Json)}
    {before counts : Counts} (hbefore : before.Nonnegative)
    (h : addCounts part before entries = .ok counts) : counts.Nonnegative := by
  induction entries generalizing before with
  | nil =>
    cases h
    exact hbefore
  | cons entry rest ih =>
    obtain ⟨name, value⟩ := entry
    unfold addCounts at h
    split at h
    · next n hcount => exact ih (hbefore.insert name (nonneg_of_count? hcount)) h
    · cases h

/-- So a whole section counts from zero up. -/
theorem nonnegative_of_sectionCounts {part : String} {j : Json} {counts : Counts}
    (h : sectionCounts part j = .ok counts) : counts.Nonnegative := by
  unfold sectionCounts at h
  split at h
  · exact nonnegative_of_addCounts Counts.nonnegative_empty h
  · cases h

/-- The counts of a snapshot file are not negative, for it would have been
refused. -/
theorem nonnegative_of_ofJson {j : Json} {snapshot : Snapshot} (h : ofJson j = .ok snapshot) :
    snapshot.Nonnegative := by
  unfold ofJson at h
  split at h
  · obtain ⟨series, hseries, hrest⟩ := exists_of_bind_eq_ok h
    obtain ⟨labels, hlabels, hpair⟩ := exists_of_bind_eq_ok hrest
    cases hpair
    exact ⟨nonnegative_of_sectionCounts hseries, nonnegative_of_sectionCounts hlabels⟩
  · cases h

end Snapshot

/-! ### Status documents -/

namespace Tsdb

/-- No entry of a statistic states a number below zero. -/
def EntriesNonnegative (statistic : Option Json) : Prop :=
  ∀ entries, statistic = some (.array entries) → ∀ entry ∈ entries, ∀ n,
    readCount ((entry.field? "value").getD (.int 0)) = .count n → 0 ≤ n

/-- No entry of a status document does. -/
def StatesNonnegative (payload : Json) : Prop :=
  ∀ data, payload.field? "data" = some data →
    EntriesNonnegative (data.field? seriesField) ∧ EntriesNonnegative (data.field? labelsField)

/-- A statistic adds none either, provided no entry of it states one. -/
theorem nonnegative_of_addEntries {field : String} {entries : List Json} {before counts : Counts}
    (hbefore : before.Nonnegative)
    (hentries : ∀ entry ∈ entries, ∀ n,
      readCount ((entry.field? "value").getD (.int 0)) = .count n → 0 ≤ n)
    (h : addEntries field before entries = .ok counts) : counts.Nonnegative := by
  induction entries generalizing before with
  | nil =>
    cases h
    exact hbefore
  | cons entry rest ih =>
    have hrest := fun other hother => hentries other (List.mem_cons_of_mem entry hother)
    -- An entry without a name is an error, and so is a value that gives no count.
    unfold addEntries at h
    split at h
    · cases h
    · split at h
      · next n hn =>
        have hnonneg := hentries entry List.mem_cons_self n hn
        exact ih (hbefore.insert _ hnonneg) hrest h
      · cases h
      · cases h

/-- So a whole statistic counts from zero up under the same provision. -/
theorem nonnegative_of_statistic {field : String} {part : Option Json} {counts : Counts}
    (hpart : EntriesNonnegative part) (h : statistic field part = .ok counts) :
    counts.Nonnegative := by
  unfold statistic at h
  split at h
  · cases h
    exact Counts.nonnegative_empty
  · cases h
    exact Counts.nonnegative_empty
  · next entries => exact nonnegative_of_addEntries Counts.nonnegative_empty (hpart entries rfl) h
  · cases h

/-- The counts of a status document are what its entries state. -/
theorem nonnegative_of_snapshot {payload : Json} {found : Snapshot}
    (hstates : StatesNonnegative payload) (h : snapshot payload = .ok found) :
    found.Nonnegative := by
  unfold snapshot at h
  split at h
  · dsimp only at h
    split at h
    · cases h
    · split at h
      · next entries hentries =>
        -- Only a document that is there has entries, so these are the data.
        have hdata : payload.field? "data" = some ((payload.field? "data").getD .null) := by
          cases hfield : payload.field? "data" with
          | none =>
            rw [hfield] at hentries
            cases hentries
          | some data => rfl
        obtain ⟨hseries, hlabels⟩ := hstates _ hdata
        obtain ⟨series, hs, hrest⟩ := exists_of_bind_eq_ok h
        obtain ⟨labels, hl, hpair⟩ := exists_of_bind_eq_ok hrest
        cases hpair
        exact ⟨nonnegative_of_statistic hseries hs, nonnegative_of_statistic hlabels hl⟩
      · cases h
  · cases h

end Tsdb

/-! ### Both forms -/

/-- A document gives a snapshot: as a snapshot file, or as the status of a
database. -/
inductive Snapshot.Decoded (j : Json) (snapshot : Snapshot) : Prop where
  | file (h : ofJson j = .ok snapshot)
  | status (h : Tsdb.snapshot j = .ok snapshot)

namespace Validation

variable {σ : Type} {query : Wording} {node : Node} {policy : Policy} {deadline : Option Number}
  {range : Option TimeRange} {provider : Provider σ} {s : σ} {snapshot : Snapshot}

/-- Where no count is negative, a safe query refers only to metrics with one
series at least. -/
theorem pos_of_isSafe (ha : AnswersInTime deadline range provider s snapshot)
    (hnonneg : snapshot.Nonnegative)
    (hsafe : (validate query (.ok node) (some policy) deadline range provider s).outcome.IsSafe)
    {metric : String} (hrefers : node.Has (·.RefersTo metric)) :
    ∃ count, snapshot.series.get? metric = some count ∧ 0 < count := by
  -- Whatever refers to the metric was admitted, which rules out that its count is zero.
  obtain ⟨sn, sel, hreaches, hresolves, hrefers⟩ := hrefers
  obtain ⟨admitted, hadmitted, hadm⟩ := (isSafe_iff_forall_reaches ha).1 hsafe sn hreaches
  have hsame : admitted = sel := Except.ok.inj (hadmitted.symm.trans hresolves)
  subst hsame
  obtain ⟨count, hcount, hne⟩ := hadm.metricsExist metric hrefers
  have hle := hnonneg.series.get? hcount
  exact ⟨count, hcount, by omega⟩

/-- The counts of a decoded snapshot are not negative, unless it comes from a
status document that states a negative number. Then a safe query refers only to
metrics with one series at least. -/
theorem nonnegative_of_decoded {j : Json} (h : Snapshot.Decoded j snapshot)
    (hstates : Tsdb.snapshot j = .ok snapshot → Tsdb.StatesNonnegative j) :
    snapshot.Nonnegative ∧
      (AnswersInTime deadline range provider s snapshot →
        (validate query (.ok node) (some policy) deadline range provider s).outcome.IsSafe →
        ∀ metric, node.Has (·.RefersTo metric) →
          ∃ count, snapshot.series.get? metric = some count ∧ 0 < count) := by
  have hnonneg : snapshot.Nonnegative := by
    cases h with
    | file h => exact Snapshot.nonnegative_of_ofJson h
    | status h => exact Tsdb.nonnegative_of_snapshot (hstates h) h
  exact ⟨hnonneg, fun ha hsafe _ hrefers => pos_of_isSafe ha hnonneg hsafe hrefers⟩

/-- A status document with one metric, whose series have the given number. -/
def statusOf (n : Int) : Json :=
  .object [("status", .string "success"),
    ("data", .object [(Tsdb.seriesField,
      .array [.object [("name", .string "up"), ("value", .int n)]])])]

/-- What that document is read as. -/
def statusSnapshot (n : Int) : Snapshot := ⟨Counts.ofList [("up", n)], Counts.empty⟩

/-- The status document with one entry decodes to that entry, whatever its sign. -/
theorem decoded_statusOf (n : Int) : Tsdb.snapshot (statusOf n) = .ok (statusSnapshot n) := rfl

/-- With a natural count the document states no negative number. -/
theorem statesNonnegative_statusOf {n : Int} (hn : 0 ≤ n) :
    Tsdb.StatesNonnegative (statusOf n) := by
  intro data hdata
  cases hdata
  refine ⟨fun entries hentries entry hentry m hm => ?_, nofun⟩
  cases hentries
  cases List.mem_singleton.1 hentry
  cases hm
  exact hn

/-- The verdict on the decoded snapshot is safe when no check objects. -/
theorem isSafe_statusSnapshot {n : Int}
    (h : Assessment.assess {} "up" [⟨"up", []⟩] (statusSnapshot n) = none) :
    (validate "up" (.ok (.selector upAlone)) (some {}) none none
      (fixedProvider (statusSnapshot n)) 0).outcome.IsSafe :=
  (isSafe_iff_assess (answersInTime_fixedProvider _)).2 ⟨_, resolves_upAlone, h⟩

/-- A status document that states a negative number is read, its count is
negative, and a query about its metric is safe. -/
theorem isSafe_negativeStatus :
    Snapshot.Decoded (statusOf (-4)) (statusSnapshot (-4)) ∧
    ¬ (statusSnapshot (-4)).Nonnegative ∧
    (validate "up" (.ok (.selector upAlone)) (some {}) none none
      (fixedProvider (statusSnapshot (-4))) 0).outcome.IsSafe := by
  refine ⟨.status (decoded_statusOf _), fun h => ?_, isSafe_statusSnapshot (by decide)⟩
  exact absurd (h.series ("up", -4) List.mem_cons_self) (by decide)

/-- A status document that states three series: the safe query refers to a
metric with series. -/
theorem nonnegative_status :
    Snapshot.Decoded (statusOf 3) (statusSnapshot 3) ∧ Tsdb.StatesNonnegative (statusOf 3) ∧
    (statusSnapshot 3).Nonnegative ∧
    ∃ count, (statusSnapshot 3).series.get? "up" = some count ∧ 0 < count := by
  have hstates := statesNonnegative_statusOf (n := 3) (by decide)
  have hdecoded := Snapshot.Decoded.status (decoded_statusOf 3)
  obtain ⟨hnonneg, hpos⟩ := nonnegative_of_decoded hdecoded fun _ => hstates
  have hrefers : (Node.selector upAlone).Has (·.RefersTo "up") :=
    (Node.has_iff resolves_upAlone).2 ⟨_, List.mem_cons_self, .inl ⟨by decide, rfl⟩⟩
  exact ⟨hdecoded, hstates, hnonneg, hpos (answersInTime_fixedProvider _)
    (isSafe_statusSnapshot (by decide)) "up" hrefers⟩

end Validation

end QueryGuard
