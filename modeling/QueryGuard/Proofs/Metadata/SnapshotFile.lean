import Mathlib.Data.List.Nodup
import QueryGuard.Metadata.Snapshot
import QueryGuard.Proofs.Json.Distinct

/-!
# `QueryGuard.Proofs.Metadata.SnapshotFile`: which documents are snapshots

A snapshot file is an object with two sections, each under one of two names. A section
that is null counts as left out, and one that is left out under both names is empty
(`Snapshot.Gives`); anything else must be an object of whole numbers from zero on, so that
a section of `false`, zero or an empty text is refused, and so is a count that is true or
has a fraction (`Snapshot.Describes`).

`Snapshot.ofJson_exact` says that these are the documents that are read, and that what is
read of one is its two sections, no entry lost and none added (`Counts.fields`). That takes
a document in which no name comes twice, as in every document that was read from a text.
For all others there is one error, which names the first fault (`Snapshot.Faulty`).
-/

set_option autoImplicit false

namespace QueryGuard

namespace Counts

/-- The counts of a table as the entries of a section. -/
def fields (counts : Counts) : List (Wording × Json) :=
  counts.entries.map fun e => (e.1, .int e.2)

/-- Inserting a new name rearranges the entries and adds one. -/
theorem perm_insertEntry {name : Wording} {count : Int} {entries : List (Wording × Int)}
    (hnew : name ∉ entries.map Prod.fst) :
    (insertEntry name count entries).Perm ((name, count) :: entries) := by
  induction entries with
  | nil => exact List.Perm.refl _
  | cons e rest ih =>
    obtain ⟨n, c⟩ := e
    rw [List.map_cons] at hnew
    unfold insertEntry
    split
    · exact List.Perm.refl _
    · rw [if_neg (List.ne_of_not_mem_cons hnew)]
      exact ((ih (List.not_mem_of_not_mem_cons hnew)).cons (n, c)).trans (List.Perm.swap _ _ _)

/-- A count of a new name is one more entry. -/
theorem perm_fields_insert {counts : Counts} {name : Wording} {count : Int}
    (hnew : name ∉ counts.fields.map Prod.fst) :
    (counts.insert name count).fields.Perm ((name, .int count) :: counts.fields) := by
  unfold fields at hnew
  rw [List.map_map] at hnew
  exact (perm_insertEntry hnew).map _

end Counts

namespace Snapshot

/-! ### What a document gives -/

/-- The field is not there, or is null. -/
def Missing (j : Json) (name : String) : Prop := j.field? name = none ∨ j.field? name = some .null

/-- The section that a document gives under two names: the first of the two that is not
null, or an empty one. -/
inductive Gives (j : Json) (name other : String) : Json → Prop
  | first {part : Json} (found : j.field? name = some part) (given : part ≠ .null) :
      Gives j name other part
  | second {part : Json} (missing : Missing j name) (found : j.field? other = some part)
      (given : part ≠ .null) : Gives j name other part
  | neither (missing : Missing j name) (other_missing : Missing j other) :
      Gives j name other (.object [])

/-- A whole number from zero on. -/
def IsCount (j : Json) : Prop := ∃ n : Int, 0 ≤ n ∧ j = .int n

/-- All values of a section are counts. -/
def Counted (entries : List (Wording × Json)) : Prop := ∀ e ∈ entries, IsCount e.2

/-- The document gives, under two names, a section with these entries. -/
def GivesEntries (j : Json) (name other : String) (entries : List (Wording × Json)) : Prop :=
  ∃ part : Json, Gives j name other part ∧ part.entries? = some entries

/-- The document is an object with two sections of counts. -/
structure Describes (j : Json) (series labels : List (Wording × Json)) : Prop where
  isObject : ∃ entries, j.entries? = some entries
  series_given : GivesEntries j "series" "seriesCountByMetric" series
  labels_given : GivesEntries j "labels" "labelValueCountByLabel" labels
  series_counted : Counted series
  labels_counted : Counted labels

/-- What is wrong with a section: it is no object, or the first of its values that is no
count. -/
inductive BadSection (part : String) (j : Json) : SnapshotError → Prop
  | notAMap (other : j.entries? = none) : BadSection part j (.sectionNotAMap part)
  | badCount {front back : List (Wording × Json)} {name : Wording} {value : Json}
      (entries : j.entries? = some (front ++ (name, value) :: back)) (counted : Counted front)
      (bad : ¬ IsCount value) : BadSection part j (.badCount part name value)

/-- What is wrong with a document. The series come first. -/
inductive Faulty (j : Json) : SnapshotError → Prop
  | notAnObject (other : j.entries? = none) : Faulty j (.notAnObject j.kindName)
  | series {entries : List (Wording × Json)} {part : Json} {e : SnapshotError}
      (isObject : j.entries? = some entries)
      (gives : Gives j "series" "seriesCountByMetric" part)
      (bad : BadSection "series" part e) : Faulty j e
  | labels {entries series : List (Wording × Json)} {part : Json} {e : SnapshotError}
      (isObject : j.entries? = some entries)
      (series_given : GivesEntries j "series" "seriesCountByMetric" series)
      (series_counted : Counted series)
      (gives : Gives j "labels" "labelValueCountByLabel" part)
      (bad : BadSection "labels" part e) : Faulty j e

variable {name other part : String} {j found : Json} {entries : List (Wording × Json)}

/-! ### The sections -/

/-- A section is missing or null, or it is found. -/
theorem missing_or_found (j : Json) (name : String) :
    Missing j name ∨ ∃ part, j.field? name = some part ∧ part ≠ .null := by
  unfold Missing
  cases j.field? name with
  | none => exact .inl (.inl rfl)
  | some part =>
    cases part with
    | null => exact .inl (.inr rfl)
    | _ => exact .inr ⟨_, rfl, nofun⟩

/-- What a field is, or something else where it is missing. -/
def present (j : Json) (name : String) (otherwise : Json) : Json :=
  match j.field? name with
  | some .null | none => otherwise
  | some part => part

/-- The first spelling that is present is used, and an empty section when neither is. -/
theorem firstPresent_eq (j : Json) (name other : String) :
    firstPresent j name other = present j name (present j other (.object [])) := rfl

/-- A missing section leaves the choice to the alternative. -/
theorem present_of_missing (missing : Missing j name) (otherwise : Json) :
    present j name otherwise = otherwise := by
  unfold present
  rcases missing with hnone | hnull
  · rw [hnone]
  · rw [hnull]

/-- A section that is given is the one used. -/
theorem present_of_found (hfound : j.field? name = some found) (given : found ≠ .null)
    (otherwise : Json) : present j name otherwise = found := by
  unfold present
  rw [hfound]
  split
  · next heq => exact absurd (Option.some.inj heq) given
  · next heq => cases heq
  · next heq => exact (Option.some.inj heq).symm

/-- The relation determines the section that is read. -/
theorem Gives.firstPresent_eq (h : Gives j name other found) :
    firstPresent j name other = found := by
  rw [Snapshot.firstPresent_eq]
  cases h with
  | first hfound given => rw [present_of_found hfound given]
  | second missing hfound given => rw [present_of_missing missing, present_of_found hfound given]
  | neither missing other_missing =>
    rw [present_of_missing missing, present_of_missing other_missing]

/-- And some section is always given. -/
theorem gives_firstPresent (j : Json) (name other : String) :
    Gives j name other (firstPresent j name other) := by
  have hgives : ∃ part, Gives j name other part := by
    rcases missing_or_found j name with missing | ⟨part, hfound, given⟩
    · rcases missing_or_found j other with other_missing | ⟨part, hfound, given⟩
      · exact ⟨_, .neither missing other_missing⟩
      · exact ⟨part, .second missing hfound given⟩
    · exact ⟨part, .first hfound given⟩
  obtain ⟨part, h⟩ := hgives
  rwa [h.firstPresent_eq]

/-- A field of a document without repeated names is such a document too. -/
theorem distinct_of_field? (hfound : j.field? name = some found) (hdoc : j.Distinct) :
    found.Distinct := by
  obtain ⟨entries, hentries⟩ := Json.exists_entries?_of_field? hfound
  rw [Json.field?_eq_lookup hentries] at hfound
  obtain ⟨before, after, heq, -⟩ := List.lookup_eq_some_iff.1 hfound
  have hmem : ((name : Wording), found) ∈ entries :=
    heq ▸ List.mem_append_right before List.mem_cons_self
  exact ((Json.distinct_iff_entries hentries).1 hdoc).2 _ hmem

/-- A section of a document without repeated names has none either. -/
theorem GivesEntries.nodup_names (h : GivesEntries j name other entries) (hdoc : j.Distinct) :
    (entries.map Prod.fst).Nodup := by
  obtain ⟨part, hgives, hentries⟩ := h
  have hpart : part.Distinct := by
    cases hgives with
    | first hfound _ => exact distinct_of_field? hfound hdoc
    | second _ hfound _ => exact distinct_of_field? hfound hdoc
    | neither _ _ => exact .object List.nodup_nil nofun
  exact ((Json.distinct_iff_entries hentries).1 hpart).1

/-! ### The counts -/

/-- A natural number counts. -/
theorem count?_of_isCount {n : Int} (h : 0 ≤ n) : count? (.int n) = some n := if_pos h

/-- Nothing else does. -/
theorem count?_of_not_isCount (h : ¬ IsCount j) : count? j = none := by
  unfold count?
  split
  · next n =>
    split
    · next hnonneg => exact absurd ⟨n, hnonneg, rfl⟩ h
    · rfl
  · rfl

/-- The values of a section are counts, or there is a first one that is none. -/
theorem counted_or_exists_bad (entries : List (Wording × Json)) :
    Counted entries ∨ ∃ front name value back, entries = front ++ (name, value) :: back ∧
      Counted front ∧ ¬ IsCount value := by
  induction entries with
  | nil => exact .inl nofun
  | cons e rest ih =>
    obtain ⟨name, value⟩ := e
    by_cases hvalue : IsCount value
    · rcases ih with hrest | ⟨front, other, bad, back, rfl, hfront, hbad⟩
      · exact .inl (List.forall_mem_cons.2 ⟨hvalue, hrest⟩)
      · exact .inr ⟨(name, value) :: front, other, bad, back, rfl,
          List.forall_mem_cons.2 ⟨hvalue, hfront⟩, hbad⟩
    · exact .inr ⟨[], name, value, rest, rfl, nofun, hvalue⟩

/-- Entries that are counts are all added, and each is one entry more as long as the names
are new. -/
theorem addCounts_append (part : String) {front : List (Wording × Json)}
    (hfront : Counted front) (before : Counts) (back : List (Wording × Json)) :
    ∃ counts, addCounts part before (front ++ back) = addCounts part counts back ∧
      (((before.fields ++ front).map Prod.fst).Nodup →
        counts.fields.Perm (before.fields ++ front)) := by
  induction front generalizing before with
  | nil =>
    refine ⟨before, rfl, fun _ => ?_⟩
    rw [List.append_nil]
  | cons f rest ih =>
    obtain ⟨name, value⟩ := f
    obtain ⟨⟨n, hn, rfl⟩, hrest⟩ := List.forall_mem_cons.1 hfront
    obtain ⟨counts, hcounts, hperm⟩ := ih hrest (before.insert name n)
    refine ⟨counts, ?_, fun hnodup => ?_⟩
    · rw [List.cons_append, addCounts, count?_of_isCount hn]
      exact hcounts
    · -- The name is new, and as an entry of its own it can stand anywhere.
      have hmiddle : (before.fields ++ (name, Json.int n) :: rest).Perm
          ((name, .int n) :: (before.fields ++ rest)) := List.perm_middle
      have honce := (hmiddle.map Prod.fst).nodup_iff.1 hnodup
      have hnew : name ∉ before.fields.map Prod.fst := by
        intro hmem
        rw [List.map_cons, List.nodup_cons, List.map_append] at honce
        exact honce.1 (List.mem_append_left _ hmem)
      have hinsert : ((before.insert name n).fields ++ rest).Perm
          ((name, .int n) :: (before.fields ++ rest)) :=
        (Counts.perm_fields_insert hnew).append_right rest
      have hcount := hperm ((hinsert.map Prod.fst).nodup_iff.2 honce)
      exact hcount.trans (hinsert.trans hmiddle.symm)

/-- A section whose every value counts is read entry by entry. -/
theorem sectionCounts_of_counted (part : String) (hentries : j.entries? = some entries)
    (hcounted : Counted entries) :
    ∃ counts, sectionCounts part j = .ok counts ∧
      ((entries.map Prod.fst).Nodup → counts.fields.Perm entries) := by
  obtain ⟨counts, hcounts, hperm⟩ := addCounts_append part hcounted Counts.empty []
  rw [List.append_nil] at hcounts
  refine ⟨counts, ?_, hperm⟩
  rw [sectionCounts, hentries]
  exact hcounts

/-- A bad section is refused with the error of its first fault. -/
theorem sectionCounts_of_bad {e : SnapshotError} (h : BadSection part j e) :
    sectionCounts part j = .error e := by
  cases h with
  | notAMap other => rw [sectionCounts, other]
  | @badCount front back name value hentries counted bad =>
    obtain ⟨counts, hcounts, -⟩ :=
      addCounts_append part counted Counts.empty ((name, value) :: back)
    rw [sectionCounts, hentries]
    simp only [hcounts, addCounts, count?_of_not_isCount bad]

/-- A section is one of counts, or it is bad. -/
theorem exists_counted_or_bad (part : String) (j : Json) :
    (∃ entries, j.entries? = some entries ∧ Counted entries) ∨ ∃ e, BadSection part j e := by
  cases hentries : j.entries? with
  | none => exact .inr ⟨_, .notAMap hentries⟩
  | some entries =>
    rcases counted_or_exists_bad entries with
      hcounted | ⟨front, name, value, back, rfl, hfront, hbad⟩
    · exact .inl ⟨entries, rfl, hcounted⟩
    · exact .inr ⟨_, .badCount hentries hfront hbad⟩

/-! ### Documents -/

/-- An object is read section by section. -/
theorem ofJson_of_entries? (h : j.entries? = some entries) :
    ofJson j = do
      let series ← sectionCounts "series" (firstPresent j "series" "seriesCountByMetric")
      let labels ← sectionCounts "labels" (firstPresent j "labels" "labelValueCountByLabel")
      return ⟨series, labels⟩ := by
  unfold ofJson
  rw [h]

/-- The two steps at once: which section is given, and what it counts. -/
theorem GivesEntries.sectionCounts_eq (part : String) (h : GivesEntries j name other entries)
    (hcounted : Counted entries) :
    ∃ counts, sectionCounts part (firstPresent j name other) = .ok counts ∧
      ((entries.map Prod.fst).Nodup → counts.fields.Perm entries) := by
  obtain ⟨found, hgives, hentries⟩ := h
  rw [hgives.firstPresent_eq]
  exact sectionCounts_of_counted part hentries hcounted

/-- A document that describes two sections is read, each section to its own counts. -/
theorem Describes.exists_ofJson {series labels : List (Wording × Json)}
    (h : Describes j series labels) :
    ∃ snapshot, ofJson j = .ok snapshot ∧
      ((series.map Prod.fst).Nodup → snapshot.series.fields.Perm series) ∧
      ((labels.map Prod.fst).Nodup → snapshot.labels.fields.Perm labels) := by
  obtain ⟨entries, hentries⟩ := h.isObject
  obtain ⟨seriesCounts, hseries, hperm⟩ :=
    h.series_given.sectionCounts_eq "series" h.series_counted
  obtain ⟨labelsCounts, hlabels, hlabelsPerm⟩ :=
    h.labels_given.sectionCounts_eq "labels" h.labels_counted
  refine ⟨⟨seriesCounts, labelsCounts⟩, ?_, hperm, hlabelsPerm⟩
  rw [ofJson_of_entries? hentries, hseries, hlabels]
  rfl

/-- A faulty document is refused with exactly its fault. -/
theorem Faulty.ofJson_eq {e : SnapshotError} (h : Faulty j e) : ofJson j = .error e := by
  cases h with
  | notAnObject other => rw [ofJson, other]
  | series isObject gives bad =>
    rw [ofJson_of_entries? isObject, gives.firstPresent_eq, sectionCounts_of_bad bad]
    rfl
  | labels isObject series_given series_counted gives bad =>
    obtain ⟨counts, hok, -⟩ := series_given.sectionCounts_eq "series" series_counted
    rw [ofJson_of_entries? isObject, hok, gives.firstPresent_eq, sectionCounts_of_bad bad]
    rfl

/-- A document describes a snapshot or is faulty. -/
theorem describes_or_faulty (j : Json) :
    (∃ series labels, Describes j series labels) ∨ ∃ e, Faulty j e := by
  cases hentries : j.entries? with
  | none => exact .inr ⟨_, .notAnObject hentries⟩
  | some entries =>
    -- The labels are only looked at if the series are in order.
    have hseries := gives_firstPresent j "series" "seriesCountByMetric"
    have hlabels := gives_firstPresent j "labels" "labelValueCountByLabel"
    rcases exists_counted_or_bad "series" (firstPresent j "series" "seriesCountByMetric")
      with ⟨series, heq, hseriesCounted⟩ | ⟨e, hbad⟩
    · rcases exists_counted_or_bad "labels" (firstPresent j "labels" "labelValueCountByLabel")
        with ⟨labels, hlabelsEq, hlabelsCounted⟩ | ⟨e, hbad⟩
      · exact .inl ⟨series, labels, ⟨entries, hentries⟩, ⟨_, hseries, heq⟩,
          ⟨_, hlabels, hlabelsEq⟩, hseriesCounted, hlabelsCounted⟩
      · exact .inr ⟨e, .labels hentries ⟨_, hseries, heq⟩ hseriesCounted hlabels hbad⟩
    · exact .inr ⟨e, .series hentries hseries hbad⟩

/-- Just the documents that describe a snapshot are read. A document in which no name comes
twice has in its two sections what is then counted, no entry lost and none added; and a
document that is not read is refused for its first fault, and for no other reason. -/
theorem ofJson_exact (j : Json) :
    ((∃ snapshot, ofJson j = .ok snapshot) ↔ ∃ series labels, Describes j series labels) ∧
      (∀ series labels snapshot, Describes j series labels → j.Distinct →
        ofJson j = .ok snapshot →
          snapshot.series.fields.Perm series ∧ snapshot.labels.fields.Perm labels) ∧
      ((¬ ∃ series labels, Describes j series labels) →
        ∃ e, Faulty j e ∧ ofJson j = .error e) := by
  -- A document describes its sections or is faulty, and each side settles what is read.
  refine ⟨⟨?_, ?_⟩, ?_, ?_⟩
  · rintro ⟨snapshot, hok⟩
    rcases describes_or_faulty j with hdescribes | ⟨e, hfaulty⟩
    · exact hdescribes
    · cases hok.symm.trans hfaulty.ofJson_eq
  · rintro ⟨series, labels, hdescribes⟩
    obtain ⟨snapshot, hok, -⟩ := hdescribes.exists_ofJson
    exact ⟨snapshot, hok⟩
  · intro series labels snapshot hdescribes hdistinct hok
    obtain ⟨found, hfound, hseries, hlabels⟩ := hdescribes.exists_ofJson
    cases hok.symm.trans hfound
    exact ⟨hseries (hdescribes.series_given.nodup_names hdistinct),
      hlabels (hdescribes.labels_given.nodup_names hdistinct)⟩
  · intro hnone
    rcases describes_or_faulty j with hdescribes | ⟨e, hfaulty⟩
    · exact absurd hdescribes hnone
    · exact ⟨e, hfaulty, hfaulty.ofJson_eq⟩

/-- Two series under the second name of their section, the first being null, and no
labels. -/
def twoUp : Json := .object [("series", .null), ("seriesCountByMetric", .object [("up", .int 2)])]

/-- The document gives one section and leaves the other out. -/
theorem describes_twoUp : Describes twoUp [("up", .int 2)] [] where
  isObject := ⟨_, rfl⟩
  series_given := ⟨_, .second (.inr rfl) rfl nofun, rfl⟩
  labels_given := ⟨_, .neither (.inl rfl) (.inl rfl), rfl⟩
  series_counted f hf := ⟨2, by decide, by rw [List.mem_singleton.1 hf]⟩
  labels_counted := nofun

/-- Its names are distinct. -/
theorem distinct_twoUp : twoUp.Distinct := by
  refine .object (by decide) fun f hf => ?_
  rcases List.mem_cons.1 hf with rfl | hf
  · exact .null
  · cases List.mem_singleton.1 hf
    refine .object (by decide) fun f hf => ?_
    cases List.mem_singleton.1 hf
    exact .number _

/-- They are read, and nothing with them. A document of a count that is true is not. -/
theorem ofJson_twoUp :
    Describes twoUp [("up", .int 2)] [] ∧ twoUp.Distinct ∧
      (∃ snapshot, ofJson twoUp = .ok snapshot ∧
        snapshot.series.fields.Perm [("up", .int 2)] ∧ snapshot.labels.fields.Perm []) ∧
      ¬ ∃ series labels, Describes (.object [("series", .object [("up", .bool true)])])
        series labels := by
  obtain ⟨haccepts, hcounts, -⟩ := ofJson_exact twoUp
  obtain ⟨snapshot, hok⟩ := haccepts.2 ⟨_, _, describes_twoUp⟩
  refine ⟨describes_twoUp, distinct_twoUp,
    ⟨snapshot, hok, hcounts _ _ _ describes_twoUp distinct_twoUp hok⟩, fun hdescribes => ?_⟩
  obtain ⟨other, hother⟩ := (ofJson_exact _).1.2 hdescribes
  cases hother

end Snapshot

end QueryGuard
