import QueryGuard.Proofs.Json.Distinct
import QueryGuard.Proofs.Service.Validate

/-!
# `QueryGuard.Proofs.Service.Complaint`: bodies that are no form

A request for a validation whose body is no form should be told what is wrong with it,
whatever the body is (`Response.Lists`). The complaints repeat what was sent, and a reader
of documents takes what a writer of responses refuses: an infinity, what is no number at
all, and halves of pairs. A complaint that repeats one of those cannot be written down, and
the service breaks down over it.

`lists_iff_sendable` says which bodies these are. It is not only the value that is
complained about which counts: a form without a query is repeated as a whole, every other
value that cannot be sent is at fault itself, since a form holds nothing but texts of
characters, and a name with halves is none of the form's
(`Form.exists_complaint_of_not_sendable`). So the complaints are listed exactly if the body
could be sent as it was read, and otherwise the service breaks down.

A body that is declared to be anything but a document is not read. The complaint about it
repeats its bytes, and no response can.

Two things are left open. A client may say nothing about its body. And a text with halves
may stand in a field that may be left out; whoever reads a form may let it pass there, as
nothing is asked of that text but that it is one.
-/

set_option autoImplicit false

namespace QueryGuard.Service

namespace Form

variable {j : Json} {entries : List (Wording × Json)}

/-- A value that cannot be sent is complained about in a field that may be left out. -/
theorem exists_optionalFault {name : String} {v : Json} (hv : j.field? name = some v)
    (h : ¬ v.Sendable) : ∃ fault, optionalFaults j name = [⟨.field name, fault, v⟩] := by
  unfold optionalFaults
  rw [hv]
  cases v with
  | null => exact absurd Json.sendable_null h
  | string s => exact absurd (Json.sendable_string s) h
  | halved w => exact ⟨.notUnicode, rfl⟩
  | _ => exact ⟨.notAText, rfl⟩

/-- A query that cannot be sent is complained about. -/
theorem exists_queryFault {v : Json} (hv : j.field? "query" = some v) (h : ¬ v.Sendable) :
    ∃ fault, queryFaults j = [⟨.field "query", fault, v⟩] := by
  unfold queryFaults
  rw [hv]
  cases v with
  | string s => exact absurd (Json.sendable_string s) h
  | halved w => exact ⟨.notUnicode, rfl⟩
  | _ => exact ⟨.notAText, rfl⟩

/-- A field that the form does not have is complained about. -/
theorem mem_faults_of_not_isField {e : Wording × Json} (he : e ∈ entries)
    (h : isField e.1 = false) : ⟨.field e.1, .unknownField, e.2⟩ ∈ faults j entries := by
  refine List.mem_append_right _ (List.mem_map.2 ⟨e, List.mem_filter.2 ⟨he, ?_⟩, rfl⟩)
  rw [h]
  rfl

/-- A value that cannot be sent is complained about, in whatever field it stands. -/
theorem exists_fault_of_not_sendable (hentries : j.entries? = some entries)
    (names : (entries.map Prod.fst).Nodup) {e : Wording × Json} (he : e ∈ entries)
    (h : ¬ e.2.Sendable) : ∃ c ∈ faults j entries, ¬ c.toJson.Sendable := by
  have hgiven {place : Place} {fault : Fault} :
      ¬ (Complaint.mk place fault e.2).toJson.Sendable :=
    fun hsend => h (Complaint.sendable_toJson_iff.1 hsend).2
  -- A value that cannot be sent is a fault wherever it stands: under a name that is no
  -- field, or as a field of the wrong kind.
  cases hfield : isField e.1 with
  | false => exact ⟨_, mem_faults_of_not_isField he hfield, hgiven⟩
  | true =>
    obtain ⟨name, hname, heq⟩ := isField_iff.1 hfield
    have hvalue : j.field? name = some e.2 := by
      rw [Json.field?_eq_lookup hentries, ← heq]
      exact lookup_of_mem_of_nodup he names
    -- Names come once, so the field is checked against this very value.
    have hmem {c : Complaint} (hc : queryFaults j = [c] ∨ optionalFaults j "start" = [c] ∨
        optionalFaults j "end" = [c] ∨ optionalFaults j "guardrails" = [c]) :
        c ∈ faults j entries := by
      simp only [faults, List.mem_append]
      rcases hc with hc | hc | hc | hc <;> simp [hc]
    simp only [fieldNames, List.mem_cons, List.not_mem_nil, or_false] at hname
    rcases hname with rfl | rfl | rfl | rfl
    · obtain ⟨fault, hc⟩ := exists_queryFault hvalue h
      exact ⟨_, hmem (.inl hc), hgiven⟩
    · obtain ⟨fault, hc⟩ := exists_optionalFault hvalue h
      exact ⟨_, hmem (.inr (.inl hc)), hgiven⟩
    · obtain ⟨fault, hc⟩ := exists_optionalFault hvalue h
      exact ⟨_, hmem (.inr (.inr (.inl hc))), hgiven⟩
    · obtain ⟨fault, hc⟩ := exists_optionalFault hvalue h
      exact ⟨_, hmem (.inr (.inr (.inr hc))), hgiven⟩

/-- A document that cannot be sent is no form, and one of the complaints about it cannot be
sent either. -/
theorem exists_complaint_of_not_sendable (hj : j.Distinct) (h : ¬ j.Sendable) :
    ∃ complaints, ofJson j = .error complaints ∧ ∃ c ∈ complaints, ¬ c.toJson.Sendable := by
  cases hentries : j.entries? with
  | none =>
    refine ⟨[notAnObject j], by rw [ofJson, hentries], _, List.mem_singleton_self _, ?_⟩
    intro hsend
    have hgiven : (notAnObject j).given = j := by
      unfold notAnObject
      split <;> rfl
    exact h (hgiven ▸ (Complaint.sendable_toJson_iff.1 hsend).2)
  | some entries =>
    obtain ⟨c, hc, hnot⟩ : ∃ c ∈ faults j entries, ¬ c.toJson.Sendable := by
      by_contra hnone
      have hall : ∀ c ∈ faults j entries, c.toJson.Sendable := fun c hc =>
        by_contra fun hnot => hnone ⟨c, hc, hnot⟩
      refine h ((Json.sendable_iff_entries hentries).2 ⟨fun e he => ?_, fun e he => ?_⟩)
      · -- A name with halves is no field of the form, and the complaint names it.
        cases hfield : isField e.1 with
        | true =>
          obtain ⟨name, -, heq⟩ := isField_iff.1 hfield
          exact heq ▸ Wording.isPlain_ofString name
        | false =>
          have hsend := hall _ (mem_faults_of_not_isField he hfield)
          exact (Complaint.sendable_toJson_iff.1 hsend).1
      · by_contra hvalue
        obtain ⟨names, -⟩ := (Json.distinct_iff_entries hentries).1 hj
        obtain ⟨c, hc, hnot⟩ := exists_fault_of_not_sendable hentries names he hvalue
        exact hnot (hall c hc)
    exact ⟨_, (ofJson_eq_error_iff hentries).2 ⟨rfl, List.ne_nil_of_mem hc⟩, c, hc, hnot⟩

/-- The complaints about a body can be sent exactly if the body can, where it is read. -/
theorem sendable_iff_of_read {declared : Bool} {body : String} {complaints : List Complaint}
    (h : read declared body = .complaints complaints) :
    (∀ c ∈ complaints, c.toJson.Sendable) ↔ ∀ j, Json.decodeBody body = .ok j → j.Sendable := by
  by_cases hempty : body = ""
  · -- There is nothing to repeat of a body that is missing.
    subst hempty
    cases h
    refine iff_of_true (List.forall_mem_singleton.2 (by decide)) ?_
    intro j hj
    exact absurd hj (Json.decodeBody_empty j)
  · rw [read, if_neg hempty] at h
    split at h
    · cases h
    · split at h
      · next position _ _ herror =>
        cases h
        refine iff_of_true (List.forall_mem_singleton.2 ?_) ?_
        · rw [Complaint.sendable_toJson_iff]
          exact ⟨trivial, Json.sendable_object_nil⟩
        · intro j hj
          cases herror.symm.trans hj
      · cases h
      · next j hbody =>
        split at h
        · cases h
        · next faults hfaults =>
          cases h
          constructor
          · intro hall other hother
            cases hbody.symm.trans hother
            by_contra hnot
            obtain ⟨given, hgiven, c, hc, hunsent⟩ :=
              exists_complaint_of_not_sendable (Json.distinct_of_decodeBody hbody) hnot
            cases hfaults.symm.trans hgiven
            exact hunsent (hall c hc)
          · exact fun hsend => sendable_of_ofJson (hsend j hbody) hfaults

end Form

/-! ### The response -/

/-- A request for a validation whose client says what its body is, if it has one.

- `options`: no field that may be left out holds a text with halves, if the body is a document
  with such fields. -/
structure Request.AsksForValidation (r : Request) : Prop where
  method : r.method = "POST"
  path : r.path = Route.validate.path
  typed : ∃ value, r.header? typeHeader = some value
  options : ∀ j, Json.decodeBody r.body = .ok j → ∀ name ∈ ["start", "end", "guardrails"],
    ∀ w, j.field? name ≠ some (.halved w)

/-- A response that says what is wrong with a form, complaint by complaint. -/
structure Response.Lists (response : Response) (complaints : List Complaint) : Prop where
  refuses : response.Refuses 422 "validation_error"
  errors : ∃ j, response.body = .document j ∧
    j.field? "errors" = some (.array (complaints.map Complaint.toJson))

/-- A response that says no more than that the service broke down. -/
def Response.BreaksDown (response : Response) : Prop := response.Refuses 500 "internal_error"

/-- The problem's response lists the complaints it was made of. -/
theorem Response.lists_ofProblem (complaints : List Complaint) (id : String) :
    (ofProblem (.invalidForm complaints) id).Lists complaints :=
  ⟨⟨rfl, _, rfl, rfl⟩, _, rfl, rfl⟩

/-- The breakdown's response breaks down. -/
theorem Response.breaksDown_ofBreakdown (id : String) : (ofBreakdown id).BreaksDown :=
  ⟨rfl, _, rfl, rfl⟩

/-- A breakdown lists no complaint, not even an empty row of them. -/
theorem Response.not_lists_ofBreakdown (id : String) (complaints : List Complaint) :
    ¬ (ofBreakdown id).Lists complaints := by
  rintro ⟨⟨hstatus, -⟩, -⟩
  cases hstatus

section
variable {σ : Type} {service : Service} {parser : QueryParser} {provider : Provider σ}
  {now : DateTime} {fresh : FreshIds} {r : Request} {s : State σ}

/-- A request that asks for validation is served by that route. -/
theorem react_of_asks (hr : r.AsksForValidation) :
    service.react parser provider now r s =
      service.serveRoute parser provider now .validate r s := by
  unfold react
  rw [hr.path, ofPath?_validate, hr.method]
  simp only [upper_post, if_true]

/-- Complaints about a body are listed exactly if the body can be sent as it was read. If it
cannot, the service breaks down instead; and so it does over a body that is declared to be
anything but a document. -/
theorem lists_iff_sendable (hr : r.AsksForValidation) :
    (∀ complaints, Form.read r.declaresDocument r.body = .complaints complaints →
      ((service.handle parser provider now fresh r s).1.Lists complaints ↔
        ∀ j, Json.decodeBody r.body = .ok j → j.Sendable) ∧
      ((service.handle parser provider now fresh r s).1.BreaksDown ↔
        ∃ j, Json.decodeBody r.body = .ok j ∧ ¬ j.Sendable)) ∧
    (Form.read r.declaresDocument r.body = .undeclared →
      (service.handle parser provider now fresh r s).1.BreaksDown) := by
  constructor
  · intro complaints h
    have hreact : service.react parser provider now r s =
        (.problem (.invalidForm complaints), [], s.provider) := by
      simp only [react_of_asks hr, serveRoute, h]
    -- Each complaint repeats a part of the body, so all can be sent exactly when the body
    -- can.
    by_cases hall : ∀ c ∈ complaints, c.toJson.Sendable
    · have hbody := (Form.sendable_iff_of_read h).1 hall
      rw [response_of_problem hreact (sendable_moreFields_iff.2 hall)]
      refine ⟨iff_of_true (Response.lists_ofProblem _ _) hbody, iff_of_false ?_ ?_⟩
      · rintro ⟨hstatus, -⟩
        cases hstatus
      · rintro ⟨j, hj, hnot⟩
        exact hnot (hbody j hj)
    · have hnot : ¬ (Reaction.problem (.invalidForm complaints)).Written :=
        fun hwritten => hall (sendable_moreFields_iff.1 hwritten)
      have hbody := fun h' => hall ((Form.sendable_iff_of_read h).2 h')
      rw [response_of_not_written hreact hnot]
      refine ⟨iff_of_false (Response.not_lists_ofBreakdown _ _) hbody,
        iff_of_true (Response.breaksDown_ofBreakdown _) ?_⟩
      by_contra hnone
      exact hbody fun j hj => by_contra fun hunsent => hnone ⟨j, hj, hunsent⟩
  · intro h
    have hreact : service.react parser provider now r s =
        (.breakdown unwritableBytes, [], s.provider) := by
      simp only [react_of_asks hr, serveRoute, h]
    rw [response_of_breakdown hreact]
    exact Response.breaksDown_ofBreakdown _

end

/-! ### Samples -/

/-- A request for a validation with a body that is declared to be a document. -/
def Request.asking (body : String) : Request where
  method := "POST"
  path := "/v1/validate"
  headers := documentHeaders
  body := body

/-- A request that posts a body asks for validation, if no optional field of the body holds half
of a pair. -/
theorem Request.asksForValidation_asking {body : String}
    (options : ∀ j, Json.decodeBody body = .ok j → ∀ name ∈ ["start", "end", "guardrails"],
      ∀ w, j.field? name ≠ some (.halved w)) : (asking body).AsksForValidation := by
  obtain ⟨value, hvalue, -⟩ := saysDocument_of_headers (r := asking body) rfl
  exact ⟨rfl, rfl, ⟨value, hvalue⟩, options⟩

/-- A body whose query is a number. -/
def numberedBody : Json := .object [("query", .int 5)]

/-- The body is read back as it was written. -/
theorem decodeBody_numberedBody :
    Json.decodeBody (Json.encode .line numberedBody) = .ok numberedBody := by
  refine Json.decodeBody_encode (.object (by decide) ?_) .line
  exact List.forall_mem_singleton.2 (.int (by decide))

/-- Nothing optional is in the body, so it asks for validation. -/
theorem asks_numberedBody :
    (Request.asking (Json.encode .line numberedBody)).AsksForValidation := by
  refine Request.asksForValidation_asking fun j hj name hname w => ?_
  cases decodeBody_numberedBody.symm.trans hj
  simp only [List.mem_cons, List.not_mem_nil, or_false] at hname
  rcases hname with rfl | rfl | rfl <;> nofun

/-- Its one complaint repeats the number that stands for the query. -/
theorem read_numberedBody :
    Form.read true (Json.encode .line numberedBody) =
      .complaints [⟨.field "query", .notAText, .int 5⟩] := by
  have hne : Json.encode .line numberedBody ≠ "" := by
    intro hempty
    exact Json.decodeBody_empty _ (hempty ▸ decodeBody_numberedBody)
  rw [Form.read, if_neg hne, decodeBody_numberedBody]
  rfl

/-- The request declares its body a document. -/
theorem declaresDocument_asking (body : String) : (Request.asking body).declaresDocument = true :=
  (Request.saysDocument_of_headers rfl).declaresDocument

/-- A query that is a number is complained about. -/
theorem lists_numberedBody :
    (Request.asking (Json.encode .line numberedBody)).AsksForValidation ∧
      Form.read true (Json.encode .line numberedBody) =
        .complaints [⟨.field "query", .notAText, .int 5⟩] ∧
      (standardService.handle (fun _ => .error "") silentProvider firstMoment sampleIds
        (.asking (Json.encode .line numberedBody)) ⟨(), []⟩).1.Lists
          [⟨.field "query", .notAText, .int 5⟩] := by
  have hread : Form.read (Request.asking (Json.encode .line numberedBody)).declaresDocument
      (Json.encode .line numberedBody) = .complaints [⟨.field "query", .notAText, .int 5⟩] := by
    rw [declaresDocument_asking, read_numberedBody]
  refine ⟨asks_numberedBody, read_numberedBody,
    ((lists_iff_sendable asks_numberedBody).1 _ hread).1.2 ?_⟩
  intro j hj
  cases decodeBody_numberedBody.symm.trans hj
  decide

/-- A body whose query is no number at all, though it is written as one. -/
def nanBody : String := "\x7b\"query\": NaN\x7d"

/-- The body is read as a document that cannot be sent, and no field but the query is given. -/
theorem exists_decodeBody_nanBody :
    ∃ j, Json.decodeBody nanBody = .ok j ∧ ¬ j.Sendable ∧
      ∀ name ∈ ["start", "end", "guardrails"], j.field? name = none := by
  -- One evaluation of the reader settles all that is asked of the document.
  have hany : ((Json.decodeBody nanBody).toOption.any fun j => !j.isFinite &&
      ["start", "end", "guardrails"].all fun name => (j.field? name).isNone) = true := by
    decide +kernel
  cases hj : Json.decodeBody nanBody with
  | error e =>
    rw [hj] at hany
    cases hany
  | ok j =>
    rw [hj] at hany
    obtain ⟨hfinite, hnone⟩ := Bool.and_eq_true_iff.1 hany
    refine ⟨j, rfl, fun hsend => ?_, fun name hname => ?_⟩
    · rw [hsend.1] at hfinite
      cases hfinite
    · exact Option.isNone_iff_eq_none.1 (List.all_eq_true.1 hnone name hname)

/-- A query that is no number breaks the service down, although there are complaints
about it. -/
theorem breaksDown_nanBody :
    (Request.asking nanBody).AsksForValidation ∧
      ∃ complaints, Form.read true nanBody = .complaints complaints ∧
        ¬ (standardService.handle (fun _ => .error "") silentProvider firstMoment sampleIds
          (.asking nanBody) ⟨(), []⟩).1.Lists complaints ∧
        (standardService.handle (fun _ => .error "") silentProvider firstMoment sampleIds
          (.asking nanBody) ⟨(), []⟩).1.status = 500 := by
  obtain ⟨j, hj, hnot, hnone⟩ := exists_decodeBody_nanBody
  obtain ⟨complaints, herror, c, hc, hgiven⟩ :=
    Form.exists_complaint_of_not_sendable (Json.distinct_of_decodeBody hj) hnot
  have hasks : (Request.asking nanBody).AsksForValidation := by
    refine Request.asksForValidation_asking fun other hother name hname w hfield => ?_
    cases hj.symm.trans hother
    cases (hnone name hname).symm.trans hfield
  have hread : Form.read true nanBody = .complaints complaints := by
    rw [Form.read, if_neg (by decide), hj]
    simp only [herror, Bool.not_true, Bool.false_eq_true, if_false]
  have hreact : standardService.react (fun _ => .error "") silentProvider firstMoment
      (.asking nanBody) ⟨(), []⟩ = (.problem (.invalidForm complaints), [], ()) := by
    have hdeclared := declaresDocument_asking nanBody
    simp only [react_of_asks hasks, serveRoute, hdeclared]
    rw [show (Request.asking nanBody).body = nanBody from rfl, hread]
  -- Which complaints there are does not matter: one of them repeats the number.
  have hunwritten : ¬ (Reaction.problem (.invalidForm complaints)).Written :=
    fun hwritten => hgiven (sendable_moreFields_iff.1 hwritten c hc)
  rw [response_of_not_written hreact hunwritten]
  exact ⟨hasks, complaints, hread, Response.not_lists_ofBreakdown _ _, rfl⟩

end QueryGuard.Service
