import QueryGuard.Proofs.Json.Truth
import QueryGuard.Service.Form

/-!
# `QueryGuard.Proofs.Service.Form`: the documents that are forms

`Form.FilledBy` says what a document must be for it to be a form, and which form
it is then: an object that has no fields but the form's, with a query that is not
empty, and with a text, nothing, or no value at all for each of the other three.
`Form.ofJson_eq_ok_iff` proves that these are the documents that are read. The
texts of a form consist of characters, so a text with halves of pairs fills in
none.

Any other document is complained about. Each complaint names its place and repeats
what was given there, so the complaints about a document that can be sent can be
sent back (`Form.sendable_of_ofJson`).
-/

set_option autoImplicit false

namespace QueryGuard.Service

/-! ### What a complaint repeats -/

/-- The place has a name that consists of characters, if it has one. -/
def Place.Sendable : Place → Prop
  | .field name => name.isPlain = true
  | _ => True

/-- A place's path can be sent when the place can. -/
theorem Place.forall_mem_path_iff {place : Place} :
    (∀ j ∈ place.path, j.Sendable) ↔ place.Sendable := by
  have hbody : (Json.string "body").Sendable := Json.sendable_string "body"
  cases place with
  | body => exact iff_of_true (List.forall_mem_singleton.2 hbody) trivial
  | field name =>
    show (∀ j ∈ [Json.string "body", .ofWording name], j.Sendable) ↔ name.isPlain = true
    rw [List.forall_mem_cons, List.forall_mem_singleton, Json.sendable_ofWording_iff]
    exact and_iff_right hbody
  | position n =>
    refine iff_of_true (List.forall_mem_cons.2 ⟨hbody, ?_⟩) trivial
    exact List.forall_mem_singleton.2 (Json.sendable_int n)

/-- A complaint can be sent if its place can be named and what was given can be
repeated. -/
theorem Complaint.sendable_toJson_iff {c : Complaint} :
    c.toJson.Sendable ↔ c.place.Sendable ∧ c.given.Sendable := by
  unfold Complaint.toJson
  rw [Json.sendable_object_iff, List.forall_mem_cons, List.forall_mem_cons,
    List.forall_mem_singleton, Json.sendable_array_iff, Place.forall_mem_path_iff]
  exact and_iff_right (Json.sendable_string c.fault.code)

namespace Form

/-! ### Forms -/

/-- The value of a field that may be left out: a text, nothing, or none. -/
def Entry (j : Json) (name : String) : Option String → Prop
  | some text => j.field? name = some (.string text)
  | none => j.field? name = none ∨ j.field? name = some .null

/-- A document is a form that is filled in right, and these are its entries. -/
structure FilledBy (form : Form) (j : Json) : Prop where
  isObject : ∃ entries, j.entries? = some entries ∧
    ∀ e ∈ entries, ∃ name ∈ fieldNames, e.1 = (name : Wording)
  query : j.field? "query" = some (.string form.query)
  query_ne : form.query ≠ ""
  start : Entry j "start" form.start
  finish : Entry j "end" form.finish
  rules : Entry j "guardrails" form.rules

variable {j : Json} {entries : List (Wording × Json)} {name : String} {complaints : List Complaint}

/-- A field of the form is one of the four names. -/
theorem isField_iff {name : Wording} :
    isField name = true ↔ ∃ n ∈ fieldNames, name = (n : Wording) := by
  simp only [isField, List.any_eq_true, decide_eq_true_eq, @eq_comm Wording _ name]

/-- The query is in order when it is a text that is not empty. -/
theorem queryFaults_eq_nil_iff :
    queryFaults j = [] ↔ ∃ s, j.field? "query" = some (.string s) ∧ s ≠ "" := by
  unfold queryFaults
  cases j.field? "query" with
  | none => simp
  | some v =>
    cases v with
    | string s => by_cases hs : s = "" <;> simp [hs]
    | _ => simp

/-- A field that may be left out is not complained about when it is an entry,
which is then its text. -/
theorem optionalFaults_eq_nil_iff :
    optionalFaults j name = [] ↔ Entry j name (text? j name) := by
  unfold optionalFaults text? Entry
  cases j.field? name with
  | none => simp
  | some v => cases v <;> simp

/-- An entry's text is read as the relation gives it. -/
theorem Entry.text?_eq {text : Option String} (h : Entry j name text) : text? j name = text := by
  unfold text?
  cases text with
  | some s =>
    have hs : j.field? name = some (.string s) := h
    rw [hs]
  | none =>
    have hnone : j.field? name = none ∨ j.field? name = some .null := h
    rcases hnone with hnone | hnone <;> rw [hnone]

/-- No name is unknown exactly when each is a field's. -/
theorem unknownFaults_eq_nil_iff :
    unknownFaults entries = [] ↔ ∀ e ∈ entries, ∃ name ∈ fieldNames, e.1 = (name : Wording) := by
  unfold unknownFaults
  rw [List.map_eq_nil_iff, List.filter_eq_nil_iff]
  simp only [Bool.not_eq_true', Bool.not_eq_false, isField_iff]

/-- A document without faults fills in the form that is read off its fields. -/
theorem filledBy_of_faults_eq_nil (hentries : j.entries? = some entries)
    (h : faults j entries = []) :
    FilledBy ⟨(text? j "query").getD "", text? j "start", text? j "end", text? j "guardrails"⟩
      j := by
  simp only [faults, List.append_eq_nil_iff] at h
  -- The row of faults is empty, so each of its five parts is.
  obtain ⟨⟨⟨⟨hquery, hstart⟩, hfinish⟩, hrules⟩, hunknown⟩ := h
  obtain ⟨s, hs, hne⟩ := queryFaults_eq_nil_iff.1 hquery
  have htext : text? j "query" = some s := by rw [text?, hs]
  exact {
    isObject := ⟨entries, hentries, unknownFaults_eq_nil_iff.1 hunknown⟩
    query := by
      rw [hs, htext]
      rfl
    query_ne := by
      rw [htext]
      exact hne
    start := optionalFaults_eq_nil_iff.1 hstart
    finish := optionalFaults_eq_nil_iff.1 hfinish
    rules := optionalFaults_eq_nil_iff.1 hrules }

/-- A document that fills in a form right has no faults. -/
theorem FilledBy.faults_eq_nil {form : Form} (h : form.FilledBy j)
    (hentries : j.entries? = some entries) : faults j entries = [] := by
  obtain ⟨others, hothers, hknown⟩ := h.isObject
  cases hentries.symm.trans hothers
  have hquery : queryFaults j = [] := queryFaults_eq_nil_iff.2 ⟨_, h.query, h.query_ne⟩
  have hoptional {name : String} {text : Option String} (he : Entry j name text) :
      optionalFaults j name = [] :=
    optionalFaults_eq_nil_iff.2 (he.text?_eq.symm ▸ he)
  rw [faults, hquery, hoptional h.start, hoptional h.finish, hoptional h.rules,
    unknownFaults_eq_nil_iff.2 hknown]
  rfl

/-- The documents that are read as a form are those that fill it in right. -/
theorem ofJson_eq_ok_iff {form : Form} : ofJson j = .ok form ↔ form.FilledBy j := by
  unfold ofJson
  cases hentries : j.entries? with
  | none =>
    refine ⟨nofun, fun h => ?_⟩
    obtain ⟨_, hsome, -⟩ := h.isObject
    cases hentries.symm.trans hsome
  | some entries =>
    constructor
    · intro h
      cases hfaults : faults j entries with
      | cons c rest =>
        simp only [hfaults] at h
        cases h
      -- No fault: the form is built from the texts, and the faults that are missing fill
      -- it.
      | nil =>
        simp only [hfaults] at h
        cases h
        exact filledBy_of_faults_eq_nil hentries hfaults
    · intro h
      have htext : text? j "query" = some form.query := by rw [text?, h.query]
      simp only [h.faults_eq_nil hentries, htext, h.start.text?_eq, h.finish.text?_eq,
        h.rules.text?_eq]
      rfl

/-- What is complained about in an object are its faults, if it has any. -/
theorem ofJson_eq_error_iff (hentries : j.entries? = some entries) :
    ofJson j = .error complaints ↔ faults j entries = complaints ∧ complaints ≠ [] := by
  unfold ofJson
  simp only [hentries]
  cases faults j entries with
  | nil => exact ⟨nofun, fun ⟨h, hne⟩ => absurd h.symm hne⟩
  | cons c rest =>
    constructor
    · intro h
      cases h
      exact ⟨rfl, nofun⟩
    · rintro ⟨rfl, -⟩
      rfl

/-- A complaint about a declared field can be sent if the document can: it repeats the
field's value, or the document as a whole. -/
theorem sendable_of_mem_declared (h : j.Sendable) {c : Complaint}
    (hc : c ∈ queryFaults j ∨ ∃ name, c ∈ optionalFaults j name) : c.toJson.Sendable := by
  rw [Complaint.sendable_toJson_iff]
  -- A complaint repeats the whole body, or the value of one field. Either can be sent if
  -- the body can.
  rcases hc with hc | ⟨name, hc⟩
  · have hplace : (Place.field ("query" : String)).Sendable := Wording.isPlain_ofString "query"
    unfold queryFaults at hc
    split at hc
    · cases List.mem_singleton.1 hc
      exact ⟨hplace, h⟩
    · split at hc
      · cases List.mem_singleton.1 hc
        exact ⟨hplace, Json.sendable_string _⟩
      · cases hc
    · next hv =>
      cases List.mem_singleton.1 hc
      exact ⟨hplace, h.field? hv⟩
    · next hv =>
      cases List.mem_singleton.1 hc
      exact ⟨hplace, h.field? hv⟩
  · have hplace : (Place.field name).Sendable := Wording.isPlain_ofString name
    unfold optionalFaults at hc
    split at hc
    · cases hc
    · cases hc
    · cases hc
    · next hv =>
      cases List.mem_singleton.1 hc
      exact ⟨hplace, h.field? hv⟩
    · next hv =>
      cases List.mem_singleton.1 hc
      exact ⟨hplace, h.field? hv⟩

/-- The complaints about a document that can be sent can be sent back. -/
theorem sendable_of_ofJson (h : j.Sendable) (hj : ofJson j = .error complaints) :
    ∀ c ∈ complaints, c.toJson.Sendable := by
  intro c hc
  cases hentries : j.entries? with
  | none =>
    unfold ofJson at hj
    simp only [hentries] at hj
    cases hj
    cases List.mem_singleton.1 hc
    rw [Complaint.sendable_toJson_iff]
    unfold notAnObject
    split
    · exact ⟨trivial, h⟩
    · exact ⟨trivial, h⟩
  | some entries =>
    obtain ⟨rfl, -⟩ := (ofJson_eq_error_iff hentries).1 hj
    simp only [faults, List.mem_append] at hc
    rcases hc with (((hc | hc) | hc) | hc) | hc
    · exact sendable_of_mem_declared h (.inl hc)
    · exact sendable_of_mem_declared h (.inr ⟨_, hc⟩)
    · exact sendable_of_mem_declared h (.inr ⟨_, hc⟩)
    · exact sendable_of_mem_declared h (.inr ⟨_, hc⟩)
    · -- A field that the form does not have is named and repeated.
      obtain ⟨e, he, rfl⟩ := List.mem_map.1 hc
      have hmem := (List.mem_filter.1 he).1
      obtain ⟨hnames, hvalues⟩ := (Json.sendable_iff_entries hentries).1 h
      exact Complaint.sendable_toJson_iff.2 ⟨hnames e hmem, hvalues e hmem⟩

end Form

end QueryGuard.Service
