import QueryGuard.Proofs.Service.Tally
import QueryGuard.Proofs.Text.Blank
import QueryGuard.Proofs.Time.Range

/-!
# `QueryGuard.Proofs.Service.RequestId`: one id for a request and its response

A client may choose the id of its request, and gets it back with the response;
otherwise an id is made for it (`Request.Identifies`). Whoever traces an incident
looks for the id that the client has, so it must not depend on how the request ended,
and an error must repeat in its body what its header says (`Response.Echoes`).

The id is chosen in two places, though. A breakdown is answered where the id of the
request is no longer known. Its response reads the header once more, this time with the
blanks around the value, and if there is none it makes an id of its own.
`handle_identifies` says what this comes to: every error repeats its id, and a response has
the id of its request unless the service broke down over a request whose id was sent with
blanks around it.

Nothing is said here of records. The id that is made for a breakdown is not the one that
the records of the same request carry.
-/

set_option autoImplicit false

namespace QueryGuard

namespace Service

/-- The id that was sent, as it was sent. The name of its header may be in either
case, and the first header of that name counts. -/
def Request.sentId? (r : Request) : Option String :=
  (r.headers.find? fun h => Text.lower h.1 = Text.lower idHeader).map (·.2)

/-- The id of a request: its own without the blanks around it, or one of those that were
made for it if there is none but blanks. -/
inductive Request.Identifies (r : Request) (fresh : FreshIds) : String → Prop
  | own {value : String} (sent : r.sentId? = some value)
      (written : Text.isBlank value = false) : Identifies r fresh (Text.strip value)
  | made {id : String} (unwritten : ∀ value, r.sentId? = some value → Text.isBlank value = true)
      (new : id = fresh.request ∨ id = fresh.breakdown) : Identifies r fresh id

/-- A response that reports an error repeats its id in its body. -/
def Response.Echoes (response : Response) : Prop :=
  400 ≤ response.status → ∃ j, response.body = .document j
    ∧ j.field? "request_id" = some (.string response.requestId)

/-- A response that reports no error need not repeat its id. -/
theorem Response.echoes_of_lt {response : Response} (h : response.status < 400) :
    response.Echoes := fun herror => absurd herror (Nat.not_le.2 h)

/-- A problem's response repeats its id in the body. -/
theorem Response.echoes_ofProblem (p : Problem) (id : String) : (ofProblem p id).Echoes :=
  fun _ => ⟨_, rfl, rfl⟩

/-- So does a breakdown's. -/
theorem Response.echoes_ofBreakdown (id : String) : (ofBreakdown id).Echoes :=
  fun _ => ⟨_, rfl, rfl⟩

section
variable {r : Request} {fresh : FreshIds}

/-- The id that was sent is the header's value, unless that is empty. -/
theorem Request.header?_idHeader : r.header? idHeader = r.sentId?.filter (· != "") := rfl

/-- An id is chosen unless the value that was sent is blank. -/
theorem Request.chosenId?_of_sent {value : String} (sent : r.sentId? = some value) :
    r.chosenId? = if Text.isBlank value = true then none else some (Text.strip value) := by
  show ((r.header? idHeader).map Text.strip).filter (· != "") = _
  rw [header?_idHeader, sent]
  -- The empty value is dropped before the blanks are, and any other blank one after it.
  by_cases hempty : value = ""
  · subst hempty
    rfl
  · by_cases hblank : Text.isBlank value = true
    · have hstrip : Text.strip value = "" := Text.strip_eq_empty_iff.2 hblank
      simp [Option.filter, hempty, hblank, hstrip]
    · have hstrip : Text.strip value ≠ "" := fun h => hblank (Text.strip_eq_empty_iff.1 h)
      simp [Option.filter, hempty, hblank, hstrip]

/-- The id that is chosen first is the id of the request. -/
theorem Request.identifies_id : r.Identifies fresh (r.id fresh) := by
  unfold Request.id
  -- An id is made when none was sent, and when what was sent is blank.
  cases hsent : r.sentId? with
  | none =>
    have hnone : r.chosenId? = none := by
      show ((r.header? idHeader).map Text.strip).filter (· != "") = _
      rw [header?_idHeader, hsent]
      rfl
    rw [hnone]
    refine .made (fun value h => ?_) (.inl rfl)
    cases hsent.symm.trans h
  | some value =>
    rw [chosenId?_of_sent hsent]
    cases hblank : Text.isBlank value with
    | true =>
      refine .made (fun other h => ?_) (.inl rfl)
      cases hsent.symm.trans h
      exact hblank
    | false => exact .own hsent hblank

/-- The ids that are made for a request are not blank. -/
theorem FreshIds.isBlank_eq_false {id : String} (h : id = fresh.request ∨ id = fresh.breakdown) :
    Text.isBlank id = false := by
  rcases h with rfl | rfl
  · exact fresh.request_written
  · exact fresh.breakdown_written

/-- The id of a breakdown, which is read off the header once more, is the id of the request
unless there are blanks around it. -/
theorem Request.identifies_idOutside_iff :
    r.Identifies fresh (r.idOutside fresh) ↔
      ∀ value, r.sentId? = some value → Text.strip value = value := by
  unfold idOutside
  rw [header?_idHeader]
  cases hsent : r.sentId? with
  | none =>
    refine iff_of_true (.made (fun value h => ?_) (.inr rfl)) nofun
    cases hsent.symm.trans h
  | some value =>
    by_cases hempty : value = ""
    · -- An empty value is none, and has no blanks around it.
      subst hempty
      refine iff_of_true (.made (fun value h => ?_) (.inr rfl)) fun value h => ?_
      · cases hsent.symm.trans h
        rfl
      · cases h
        rfl
    · have hheader : ((some value).filter (· != "")).getD fresh.breakdown = value := by
        simp [Option.filter, hempty]
      rw [hheader]
      constructor
      · intro h other hother
        cases hother
        cases h with
        | own sent written =>
          exact congrArg Text.strip (Option.some.inj (hsent.symm.trans sent))
        | made unwritten new =>
          -- The value is blank, and yet one of the ids that were made.
          cases (FreshIds.isBlank_eq_false new).symm.trans (unwritten _ hsent)
      · intro h
        have hstrip := h value rfl
        have hblank : Text.isBlank value = false := by
          rw [← Bool.not_eq_true, ← Text.strip_eq_empty_iff, hstrip]
          exact hempty
        exact hstrip ▸ .own hsent hblank

end

/-- Every error repeats the id of its response, and a response has the id of its request
unless it reports a breakdown over a request whose id was sent with blanks around it.
A breakdown has the id as it was sent, and every other response the id that was chosen
first. -/
theorem handle_identifies {σ : Type} (service : Service) (parser : QueryParser)
    (provider : Provider σ) (now : DateTime) (fresh : FreshIds) (r : Request) (s : State σ) :
    let response := (service.handle parser provider now fresh r s).1
    response.Echoes
      ∧ response.requestId = (if response.status = 500 then r.idOutside fresh else r.id fresh)
      ∧ (r.Identifies fresh response.requestId ↔ (response.status = 500 →
          ∀ value, r.sentId? = some value → Text.strip value = value)) := by
  have hreact : service.react parser provider now r s = (_, _, _) := rfl
  -- Only a breakdown answers outside the scope in which the id was cut.
  rcases handle_cases fresh hreact with
    ⟨body, -, -, hhandle⟩ | ⟨route, -, hhandle⟩ | ⟨p, -, -, hhandle⟩ | ⟨-, cause, hhandle⟩
  · rw [hhandle]
    have hstatus : (200 : Nat) < 400 := by decide
    exact ⟨Response.echoes_of_lt hstatus, rfl, iff_of_true Request.identifies_id nofun⟩
  · rw [hhandle]
    have hstatus : (307 : Nat) < 400 := by decide
    exact ⟨Response.echoes_of_lt hstatus, rfl, iff_of_true Request.identifies_id nofun⟩
  · rw [hhandle]
    have hstatus : p.status ≠ 500 := (p.status_bounds.2).ne
    exact ⟨Response.echoes_ofProblem p _, (if_neg hstatus).symm,
      iff_of_true Request.identifies_id fun h => absurd h hstatus⟩
  · rw [hhandle]
    refine ⟨Response.echoes_ofBreakdown _, rfl, ?_⟩
    exact Request.identifies_idOutside_iff.trans ⟨fun h _ => h, fun h => h rfl⟩

/-- A request about the service's health, whose id is sent with blanks around it. -/
def paddedHealth : Request := { healthRequest with headers := [("x-request-id", " req-7 ")] }

/-- An answer has the id without the blanks. -/
theorem identifies_paddedHealth :
    paddedHealth.Identifies sampleIds (standardService.handle upParser silentProvider
      TimeRange.mayNoon sampleIds paddedHealth ⟨(), []⟩).1.requestId := by
  obtain ⟨-, -, hid⟩ := handle_identifies standardService upParser silentProvider
    TimeRange.mayNoon sampleIds paddedHealth ⟨(), []⟩
  have hstatus : (standardService.handle upParser silentProvider TimeRange.mayNoon sampleIds
      paddedHealth ⟨(), []⟩).1.status ≠ 500 := by
    decide
  exact hid.2 fun h => absurd h hstatus

/-- A body with an end in the first half hour of the calendar, and no start. -/
def earlyBody : Json :=
  .object [("query", .string "up"), ("end", .string "0001-01-01T00:30:00Z")]

/-- A request with that body, whose id is sent with blanks around it. -/
def paddedRequest : Request :=
  { Request.posting earlyBody with headers := ("x-request-id", " req-7 ") :: documentHeaders }

/-- The padding is around the id only, so the body is posted as it is. -/
theorem posts_paddedRequest : paddedRequest.Posts earlyBody where
  method := rfl
  path := rfl
  declared := ⟨"application/json", by decide +kernel, by decide +kernel⟩
  body := by
    refine Json.decodeBody_encode (.object (by decide) ?_) .line
    simp [Json.Plain.string]

/-- The service breaks down over the time range, and the response has the id with its
blanks, which is not the id of the request. -/
theorem not_identifies_paddedRequest :
    let response := (standardService.handle upParser silentProvider TimeRange.mayNoon sampleIds
      paddedRequest ⟨(), []⟩).1
    response.status = 500 ∧ response.requestId = " req-7 "
      ∧ ¬ paddedRequest.Identifies sampleIds response.requestId := by
  have hform : Form.FilledBy ⟨"up", none, some "0001-01-01T00:30:00Z", none⟩ earlyBody :=
    Form.ofJson_eq_ok_iff.1 rfl
  -- The end is so early that there is no hour before it, which nothing catches.
  have hreact : standardService.react upParser silentProvider TimeRange.mayNoon paddedRequest
      ⟨(), []⟩ = (.breakdown ⟨"OverflowError", "date value out of range"⟩, [], ()) := by
    rw [react_of_form posts_paddedRequest hform, validate,
      TimeRange.unreckonable_firstHour.parse_eq.1]
    rfl
  have hresponse : (standardService.handle upParser silentProvider TimeRange.mayNoon sampleIds
      paddedRequest ⟨(), []⟩).1 = .ofBreakdown (paddedRequest.idOutside sampleIds) :=
    response_of_breakdown hreact
  intro response
  have hsent : paddedRequest.sentId? = some " req-7 " := by decide
  have hid : response.requestId = paddedRequest.idOutside sampleIds :=
    congrArg Response.requestId hresponse
  refine ⟨congrArg Response.status hresponse, hid, ?_⟩
  rw [hid, Request.identifies_idOutside_iff]
  exact fun h => absurd (h _ hsent) (by decide)

end Service

end QueryGuard
