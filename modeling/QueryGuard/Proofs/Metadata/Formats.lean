import Mathlib.Data.List.Perm.Basic
import QueryGuard.Proofs.Json.RoundTrip
import QueryGuard.Proofs.Metadata.Counts
import QueryGuard.Proofs.Metadata.Failures
import QueryGuard.Proofs.Metadata.Nonnegative
import QueryGuard.Proofs.Metadata.SnapshotFile
import QueryGuard.Proofs.Number.Numeral

/-!
# `QueryGuard.Proofs.Metadata.Formats`: one snapshot in two formats

A snapshot comes from the status of a database or from a file. A status document lists
its counts as entries, in any order, with the count as a number or as a text, and it may
name a metric more than once (`Tsdb.Reports`). A file has one field for each name, in
sections that have two names each (`Snapshot.FiledAs`).

`Snapshot.same_in_both_formats` says that the two are read alike: documents that state
the same counts give the same snapshot, which is the one with these counts, and so every
query gets the same verdict from a backend as from a file. Of the entries for one name
the last one counts, and the table is as if the others were not there.

A count in a text is a numeral, and those are only read up to a number of digits. The
counts of a file are from zero on, so there the tables must be; a status document may
state a number below zero, and then there is no file for it.
-/

set_option autoImplicit false

namespace QueryGuard

/-! ### Status documents -/

namespace Tsdb

/-- A document states a number: it is the number, or its numeral in a text. -/
inductive StatesCount (n : Int) : Json → Prop
  | number : StatesCount n (.int n)
  | text (short : (Nat.toDigits 10 n.natAbs).length ≤ Numeral.maxDigits) :
      StatesCount n (.string (toString n))

/-- An entry of a statistic states the count of a name. -/
structure StatesEntry (e : Wording × Int) (entry : Json) : Prop where
  name : entry.field? "name" = some (.ofWording e.1)
  count : ∃ value, entry.field? "value" = some value ∧ StatesCount e.2 value

/-- A list of entries states a table: one entry for each count, in any order, and besides
only entries that a later one of the same name replaces. -/
def Lists (counts : Counts) (entries : List Json) : Prop :=
  ∃ row, List.Forall₂ StatesEntry row entries ∧ (Counts.latest row).Perm counts.entries

/-- A status document reports a snapshot: it is complete, and lists the counts of both
statistics. -/
structure Reports (found : Snapshot) (status : Json) : Prop where
  complete : status.field? "status" = some (.string "success")
  stated : ∃ data series labels, status.field? "data" = some data ∧
    data.field? seriesField = some (.array series) ∧ Lists found.series series ∧
    data.field? labelsField = some (.array labels) ∧ Lists found.labels labels

/-- A stated count is read back, as an integer or as its decimal digits. -/
theorem readCount_of_statesCount {n : Int} {value : Json} (h : StatesCount n value) :
    readCount value = .count n := by
  cases h with
  | number => rfl
  | text short =>
    unfold readCount
    simp only [Numeral.readInt_toString short]

/-- Entries that state a row of counts are added one by one. -/
theorem addEntries_of_states {field : String} {row : List (Wording × Int)} {entries : List Json}
    (h : List.Forall₂ StatesEntry row entries) (before : Counts) :
    addEntries field before entries =
      .ok (row.foldl (fun counts e => counts.insert e.1 e.2) before) := by
  induction h generalizing before with
  | nil => rfl
  | @cons e entry row entries hentry hrest ih =>
    obtain ⟨value, hvalue, hcount⟩ := hentry.count
    rw [addEntries, hentry.name, hvalue, Option.getD_some]
    simp only [readCount_of_statesCount hcount, Json.display_ofWording]
    exact ih _

/-- Entries that list the counts decode to them. -/
theorem statistic_of_lists {field : String} {counts : Counts} {entries : List Json}
    (h : Lists counts entries) : statistic field (some (.array entries)) = .ok counts := by
  obtain ⟨row, hstates, hperm⟩ := h
  show addEntries field Counts.empty entries = _
  rw [addEntries_of_states hstates, ← Counts.ofList_eq_of_perm hperm]
  rfl

/-- A status document is read as the snapshot that it reports. -/
theorem snapshot_of_reports {found : Snapshot} {status : Json} (h : Reports found status) :
    snapshot status = .ok found := by
  obtain ⟨hcomplete, data, series, labels, hdata, hseries, listsSeries, hlabels, listsLabels⟩ := h
  -- What has fields is an object.
  obtain ⟨entries, hentries⟩ := Json.exists_entries?_of_field? hcomplete
  obtain ⟨statistics, hstatistics⟩ := Json.exists_entries?_of_field? hseries
  simp only [snapshot, hentries, hcomplete, hdata, Option.getD_some, hstatistics, hseries, hlabels,
    statistic_of_lists listsSeries, statistic_of_lists listsLabels]
  rfl

end Tsdb

/-! ### Snapshot files -/

namespace Counts

/-- Counts are determined by their fields in any order, since the fields are kept sorted. -/
theorem eq_of_perm_fields {a b : Counts} (h : a.fields.Perm b.fields) : a = b := by
  have hinjective : Function.Injective fun e : Wording × Int => (e.1, Json.int e.2) := by
    rintro ⟨name, n⟩ ⟨other, m⟩ heq
    cases heq
    rfl
  exact eq_of_perm ((List.map_perm_map_iff hinjective).1 h)

/-- Counts that are not negative can be written to a file as they are. -/
theorem Nonnegative.counted {counts : Counts} (h : counts.Nonnegative)
    {entries : List (Wording × Json)} (hentries : entries.Perm counts.fields) :
    Snapshot.Counted entries := by
  intro f hf
  obtain ⟨e, he, rfl⟩ := List.mem_map.1 (hentries.mem_iff.1 hf)
  exact ⟨e.2, h e he, rfl⟩

/-- No name comes twice among the fields. -/
theorem nodup_names_fields (counts : Counts) : (counts.fields.map Prod.fst).Nodup := by
  unfold fields
  rw [List.map_map]
  exact counts.nodup_names

end Counts

namespace Snapshot

/-- A file holds a snapshot: it has a section for each table, under either name of the
section, with the counts as entries in any order. -/
def FiledAs (snapshot : Snapshot) (file : Json) : Prop :=
  ∃ entries series labels, file.entries? = some entries ∧
    GivesEntries file "series" "seriesCountByMetric" series ∧
    series.Perm snapshot.series.fields ∧
    GivesEntries file "labels" "labelValueCountByLabel" labels ∧
    labels.Perm snapshot.labels.fields

/-- A file is read as the snapshot that it holds. -/
theorem ofJson_of_filedAs {snapshot : Snapshot} (nonnegative : snapshot.Nonnegative) {file : Json}
    (h : snapshot.FiledAs file) : ofJson file = .ok snapshot := by
  obtain ⟨entries, series, labels, hentries, givesSeries, hseries, givesLabels, hlabels⟩ := h
  have hdescribes : Describes file series labels := {
    isObject := ⟨entries, hentries⟩
    series_given := givesSeries
    labels_given := givesLabels
    series_counted := nonnegative.series.counted hseries
    labels_counted := nonnegative.labels.counted hlabels }
  obtain ⟨⟨foundSeries, foundLabels⟩, hfound, hfoundSeries, hfoundLabels⟩ :=
    hdescribes.exists_ofJson
  -- The names of a table are distinct, so no entry of a section is lost.
  have hsame {counts found : Counts} {part : List (Wording × Json)} (hpart : part.Perm counts.fields)
      (hread : (part.map Prod.fst).Nodup → found.fields.Perm part) : found = counts := by
    have hnodup := (hpart.map Prod.fst).nodup_iff.2 counts.nodup_names_fields
    exact Counts.eq_of_perm_fields ((hread hnodup).trans hpart)
  cases hsame hseries hfoundSeries
  cases hsame hlabels hfoundLabels
  exact hfound

end Snapshot

/-! ### Both formats -/

namespace Backend

/-- A backend answers a request with a document, as a success. -/
def Answers {σ : Type} (config : Config) (transport : Transport σ) (s : σ) (status : Json) : Prop :=
  ∃ code body, (transport config.request s).1 = .response code body ∧
    isSuccess code = true ∧ Json.decodeBody body = .ok status

/-- A backend that answers with a status document has the snapshot that is read of it. -/
theorem reply_of_answers {σ : Type} {config : Config} {transport : Transport σ} {s : σ}
    {status : Json} {found : Snapshot} (h : Answers config transport s status)
    (hfound : Tsdb.snapshot status = .ok found) (range : Option TimeRange) :
    (provider config transport range s).reply = .value found := by
  obtain ⟨code, body, hdelivery, hcode, hbody⟩ := h
  have hread : readBody body = .value found := by
    unfold readBody
    simp only [hbody, hfound]
  rw [provider_eq, hdelivery]
  simp only [receive, hcode, if_true, hread]

end Backend

/-- A file and a status document that state the counts of a snapshot are both read as that
snapshot. So a query has the same outcome with a backend that answers with the status
document as with the snapshot of the file. -/
theorem Snapshot.same_in_both_formats {snapshot : Snapshot} (nonnegative : snapshot.Nonnegative)
    {file status : Json} (hfile : snapshot.FiledAs file) (hstatus : Tsdb.Reports snapshot status) :
    ofJson file = .ok snapshot ∧ Tsdb.snapshot status = .ok snapshot ∧
      ∀ {σ : Type} (config : Backend.Config) (transport : Backend.Transport σ) (s : σ),
        Backend.Answers config transport s status →
        ∀ query tree policy deadline range calls,
          (Validation.validate query tree policy deadline range
            (Backend.provider config transport) s).outcome =
          (Validation.validate query tree policy deadline range
            (fixedProvider snapshot) calls).outcome := by
  have hread := Tsdb.snapshot_of_reports hstatus
  refine ⟨ofJson_of_filedAs nonnegative hfile, hread, ?_⟩
  intro σ config transport s hanswers query tree policy deadline range calls
  have hreply : (Backend.provider config transport range s).reply =
      (fixedProvider snapshot range calls).reply := Backend.reply_of_answers hanswers hread range
  exact Validation.outcome_congr hreply

/-! ### A sample -/

namespace Snapshot

/-- Two series of `up`, none of `down`, and four values of a label. -/
def upAndDown : Snapshot :=
  ⟨Counts.ofList [("up", 2), ("down", 0)], Counts.ofList [("job", 4)]⟩

/-- The snapshot as a file, its sections under their longer names. -/
def upAndDownFile : Json :=
  .object [
    ("seriesCountByMetric", .object [("up", .int 2), ("down", .int 0)]),
    ("labelValueCountByLabel", .object [("job", .int 4)])]

/-- A count of a name, as a status document has it. -/
def countEntry (name : String) (value : Json) : Json :=
  .object [("name", .string name), ("value", value)]

/-- The snapshot as the status of a database, which has counted `up` twice. -/
def upAndDownStatus : Json :=
  .object [
    ("status", .string "success"),
    ("data", .object [
      (Tsdb.seriesField, .array [countEntry "up" (.string "90"), countEntry "down" (.int 0),
        countEntry "up" (.string "2")]),
      (Tsdb.labelsField, .array [countEntry "job" (.int 4)])])]

/-- The snapshot's counts are natural numbers. -/
theorem nonnegative_upAndDown : upAndDown.Nonnegative where
  series := by
    show ∀ e ∈ [(("down" : Wording), 0), ("up", 2)], (0 : Int) ≤ e.2
    decide
  labels := by
    show ∀ e ∈ [(("job" : Wording), 4)], (0 : Int) ≤ e.2
    decide

/-- The file lists its series in another order than the counts. -/
theorem filedAs_upAndDown : upAndDown.FiledAs upAndDownFile :=
  ⟨_, _, _, rfl, ⟨_, .second (.inl rfl) rfl nofun, rfl⟩, List.Perm.swap _ _ _,
    ⟨_, .second (.inl rfl) rfl nofun, rfl⟩, List.Perm.refl _⟩

/-- The status document states one count as digits and another as an integer. -/
theorem reports_upAndDown : Tsdb.Reports upAndDown upAndDownStatus where
  complete := rfl
  stated := by
    refine ⟨_, _, _, rfl, rfl, ⟨[("up", 90), ("down", 0), ("up", 2)], ?_, ?_⟩, rfl,
      ⟨[("job", 4)], ?_, List.Perm.refl _⟩⟩
    · exact .cons ⟨rfl, _, rfl, .text (by decide)⟩ (.cons ⟨rfl, _, rfl, .number⟩
        (.cons ⟨rfl, _, rfl, .text (by decide)⟩ .nil))
    · exact List.Perm.refl _
    · exact .cons ⟨rfl, _, rfl, .number⟩ .nil

/-- It is plain, so it is read back as it was written. -/
theorem plain_upAndDownStatus : upAndDownStatus.Plain := by
  -- Built up the way the document is: entries, statistics, the whole.
  have hentry {name : String} {value : Json} (h : value.Plain) : (countEntry name value).Plain := by
    have hnames : ["name", "value"].Nodup := by decide
    refine .object hnames (List.forall_mem_cons.2 ⟨.string name, ?_⟩)
    exact List.forall_mem_singleton.2 h
  have hnumber {n : Int} (h : (Nat.toDigits 10 n.natAbs).length ≤ 4300) : (Json.int n).Plain :=
    .int h
  have hseries : (Json.array [countEntry "up" (.string "90"), countEntry "down" (.int 0),
      countEntry "up" (.string "2")]).Plain := by
    refine .array ?_
    simp only [List.forall_mem_cons, List.not_mem_nil, false_imp_iff, implies_true, and_true]
    exact ⟨hentry (.string _), hentry (hnumber (by decide)), hentry (.string _)⟩
  have hlabels : (Json.array [countEntry "job" (.int 4)]).Plain :=
    .array (List.forall_mem_singleton.2 (hentry (hnumber (by decide))))
  refine .object (by decide) (List.forall_mem_cons.2 ⟨.string _, ?_⟩)
  refine List.forall_mem_singleton.2 (.object (by decide) ?_)
  exact List.forall_mem_cons.2 ⟨hseries, List.forall_mem_singleton.2 hlabels⟩

/-- A backend that answers every request with that status. -/
def upAndDownTransport : Backend.Transport Nat :=
  fun _ n => (.response 200 (Json.encode .line upAndDownStatus), n + 1)

/-- Both documents are read as the snapshot, and a query of `up` ends in the same way with
the backend as with the file. -/
theorem same_upAndDown :
    upAndDown.Nonnegative ∧ upAndDown.FiledAs upAndDownFile ∧
      Tsdb.Reports upAndDown upAndDownStatus ∧
      ofJson upAndDownFile = .ok upAndDown ∧ Tsdb.snapshot upAndDownStatus = .ok upAndDown ∧
      (Validation.validate "up" (.ok (.selector Validation.upAlone)) (some {}) none none
        (Backend.provider { baseUrl := "http://prom:9090" } upAndDownTransport) 0).outcome =
      (Validation.validate "up" (.ok (.selector Validation.upAlone)) (some {}) none none
        (fixedProvider upAndDown) 0).outcome := by
  obtain ⟨hfile, hstatus, hsame⟩ :=
    same_in_both_formats nonnegative_upAndDown filedAs_upAndDown reports_upAndDown
  refine ⟨nonnegative_upAndDown, filedAs_upAndDown, reports_upAndDown, hfile, hstatus, ?_⟩
  exact hsame _ upAndDownTransport 0
    ⟨200, _, rfl, by decide, Json.decodeBody_encode plain_upAndDownStatus .line⟩ _ _ _ _ _ _

end Snapshot

end QueryGuard
