import QueryGuard.Metrics.Samples

/-!
# `QueryGuard.Proofs.Metrics.Count`: counters along a journal

The counters are not kept anywhere: they are counted from the events of a journal.
So what a counter does along a run follows from what is appended to the journal.
Counts add up (`count_append`), only the event that moves a sample adds to it
(`count_cons`), and records move nothing, with or without the id of a request
(`count_records`, `count_under`).

`mem_samples_iff` says what is shown of the counters: the samples that have been
moved, each with its count.
-/

set_option autoImplicit false

namespace QueryGuard.Journal

variable {journal later : Journal} {name : String} {labels : Fields String}

/-- Nothing is counted before anything happens. -/
@[simp] theorem count_nil : count [] name labels = 0 := rfl

/-- What happens later is counted on top. -/
theorem count_append :
    (journal ++ later).count name labels = journal.count name labels + later.count name labels := by
  unfold count
  rw [List.filterMap_append, List.count_append]

/-- One event adds one to the sample that it moves. -/
theorem count_cons (e : Event) :
    count (e :: journal) name labels =
      count journal name labels + if moved? e = some (name, labels) then 1 else 0 := by
  unfold count
  cases hmoved : moved? e with
  | none => rw [List.filterMap_cons_none hmoved, if_neg nofun, Nat.add_zero]
  | some sample =>
    rw [List.filterMap_cons_some hmoved, List.count_cons]
    simp only [beq_iff_eq, Option.some.injEq]

/-- Writing a record moves no counter. -/
@[simp] theorem count_record_cons (r : Log.Record) :
    count (.record r :: journal) name labels = count journal name labels := rfl

/-- Records move no counter. -/
theorem count_records (records : List Log.Record) :
    count (records.map .record) name labels = 0 := by
  induction records with
  | nil => rfl
  | cons r rest ih => rw [List.map_cons, count_record_cons, ih]

/-- The id of a request goes into records only. -/
theorem count_under (request : Option String) :
    (journal.under request).count name labels = journal.count name labels := by
  induction journal with
  | nil => rfl
  | cons e rest ih =>
    unfold under at ih ⊢
    rw [List.map_cons, count_cons, count_cons, ih]
    cases e <;> rfl

/-! ### What is shown -/

/-- A counter has a sample for labels that were counted. -/
theorem mem_labelSets_iff : labels ∈ journal.labelSets name ↔ 0 < journal.count name labels := by
  unfold labelSets count
  rw [List.mem_eraseDups, List.count_pos_iff, List.mem_map]
  constructor
  · rintro ⟨⟨n, l⟩, hmem, rfl⟩
    obtain ⟨hmem, hname⟩ := List.mem_filter.1 hmem
    have hname : n = name := by simpa using hname
    exact hname ▸ hmem
  · intro hmem
    exact ⟨(name, labels), List.mem_filter.2 ⟨hmem, by simp⟩, rfl⟩

/-- Every event that moves a counter moves one of the three. -/
theorem mem_of_moved? {e : Event} (h : moved? e = some (name, labels)) :
    name ∈ [verdictCounter, fetchCounter, failureCounter] := by
  cases e with
  | record r => cases h
  | verdict safe rule =>
    cases h
    exact List.mem_cons_self
  | fetch provider =>
    cases h
    exact List.mem_cons_of_mem _ List.mem_cons_self
  | fetchFailure provider =>
    cases h
    exact List.mem_cons_of_mem _ (List.mem_cons_of_mem _ List.mem_cons_self)

/-- The samples shown are those that were moved, with their counts. -/
theorem mem_samples_iff {s : Sample} :
    s ∈ journal.samples ↔ 0 < s.value ∧ s.value = journal.count s.name s.labels := by
  unfold samples samplesOf
  simp only [List.mem_flatMap, List.mem_map]
  constructor
  · rintro ⟨name, -, labels, hlabels, rfl⟩
    exact ⟨mem_labelSets_iff.1 hlabels, rfl⟩
  · rintro ⟨hpos, hvalue⟩
    have hcount : 0 < journal.count s.name s.labels := hvalue ▸ hpos
    -- A count above zero comes from an event, which names one of the counters.
    have hmem : (s.name, s.labels) ∈ journal.filterMap moved? := List.count_pos_iff.1 hcount
    obtain ⟨e, -, hmoved⟩ := List.mem_filterMap.1 hmem
    refine ⟨s.name, mem_of_moved? hmoved, s.labels, mem_labelSets_iff.2 hcount, ?_⟩
    rw [← hvalue]

end QueryGuard.Journal
