import QueryGuard.Service.Exchange
import QueryGuard.Settings.Basic
import QueryGuard.Validation

/-!
# `QueryGuard.Service.Basic`: validations for clients

The service is set up once: its policy is read when it starts, and bad
rules keep it from starting. Requests are then served one after the
other. A verdict is an answer, whether the query is safe or not; only
requests that cannot be validated at all are problems.

What nobody expects breaks the service down for one request: the answer
says no more than that, the record tells the cause. The record stands
outside the request and has no id; the id of the response is the
client's own, as it was sent, or one that is made anew.

A response is written in characters, and its numbers are finite. A
response that would repeat anything else cannot be written, and the
service breaks down over it.
-/

set_option autoImplicit false

namespace QueryGuard

/-- A service that is set up. -/
structure Service where
  settings : Settings
  /-- The policy for requests that ask for none. -/
  policy : Option Policy

namespace Service

/-- What changes from request to request. -/
structure State (σ : Type) where
  /-- The state of the provider. -/
  provider : σ
  /-- All that has happened so far. -/
  journal : Journal := []

/-- The record of a service that has started. -/
def startRecord (service : Service) : Log.Record where
  level := .info
  logger := "promguard.main"
  message := "guardrails service configured"
  extras := [("backend", .string service.settings.backendUrl),
    ("guardrails", .list (((service.policy.map Policy.enabledRules).getD []).map .string))]

/-- Set a service up. -/
def start (settings : Settings) : Except PolicyError Service := do
  let policy ← settings.policy none
  return ⟨settings, policy⟩

/-- The routes of a service. -/
def routes (service : Service) : List Route :=
  Route.all.filter fun r => r != .metrics || service.settings.metricsEnabled

/-- How serving a request ends. -/
inductive Reaction where
  | answer (body : Body)
  /-- The client is sent on to a route. -/
  | redirect (route : Route)
  | problem (p : Problem)
  /-- The service broke down. -/
  | breakdown (cause : Log.Failure)

/-- The answer about the service's health. -/
def health (service : Service) : Json :=
  .object [("status", .string "ok"), ("env", .string service.settings.environment),
    ("version", .string service.settings.version), ("git_sha", .string ""),
    ("guardrails_enabled", .bool service.policy.isSome)]

/-- The answer about the service's policy. -/
def policyAnswer (service : Service) : Json :=
  match service.policy with
  | none => .object [("enabled", .bool false)]
  | some policy =>
    .object ([("enabled", .bool true),
      ("rules", .array (policy.enabledRules.map Json.string))] ++ policy.fields)

/-- The end of a request whose time range is refused, or cannot be
reckoned with. -/
def refuseTime (e : TimeError) : Reaction :=
  if e.isRefusal then .problem (.invalidTimeRange e.message) else .breakdown ⟨e.kind, e.message⟩

/-- The policy for a form: the service's own unless it names rules. -/
def policyFor (service : Service) (form : Form) : Except PolicyError (Option Policy) :=
  match form.rules with
  | none => .ok service.policy
  | some rules => service.settings.policy (some rules)

/-- How the end of a validation is reported. -/
def report : QueryGuard.Outcome → Reaction
  | .verdict v => .answer (.document v.toJson)
  | .unsupported e => .breakdown ⟨"ValueError", e.message⟩
  | .waiting => .breakdown ⟨"TimeoutError", ""⟩

/-- Validate what a form asks for. -/
def validate {σ : Type} (service : Service) (parser : QueryParser) (provider : Provider σ)
    (now : DateTime) (form : Form) (s : σ) : Reaction × Journal × σ :=
  match TimeRange.parse form.start form.finish now with
  | .error e => (refuseTime e, [], s)
  | .ok range =>
    match service.policyFor form with
    | .error e => (.problem (.invalidPolicy e.message), [], s)
    | .ok policy =>
      let v := Validation.validate form.query (readQuery parser form.query) policy
        (some (.double service.settings.timeout)) (some range) provider s
      (report v.outcome, v.journal, v.state)

/-- The cause of a breakdown by a complaint that repeats bytes. -/
def unwritableBytes : Log.Failure := ⟨"TypeError", "Object of type bytes is not JSON serializable"⟩

/-- Serve a request whose route is known. -/
def serveRoute {σ : Type} (service : Service) (parser : QueryParser) (provider : Provider σ)
    (now : DateTime) (route : Route) (r : Request) (s : State σ) : Reaction × Journal × σ :=
  match route with
  | .health => (.answer (.document service.health), [], s.provider)
  | .policy => (.answer (.document service.policyAnswer), [], s.provider)
  | .metrics => (.answer (.samples s.journal.samples), [], s.provider)
  | .validate =>
    match Form.read r.declaresDocument r.body with
    | .form form => service.validate parser provider now form s.provider
    | .complaints cs => (.problem (.invalidForm cs), [], s.provider)
    | .undeclared => (.breakdown unwritableBytes, [], s.provider)
    | .unreadable => (.problem .unreadableBody, [], s.provider)

/-- Find the route of a request, and serve it. -/
def react {σ : Type} (service : Service) (parser : QueryParser) (provider : Provider σ)
    (now : DateTime) (r : Request) (s : State σ) : Reaction × Journal × σ :=
  match Route.ofPath? service.routes r.path with
  | none =>
    match Route.instead? service.routes r.path with
    | none => (.problem .notFound, [], s.provider)
    | some route => (.redirect route, [], s.provider)
  | some route =>
    if Text.upper r.method = route.method then
      service.serveRoute parser provider now route r s
    else (.problem .methodNotAllowed, [], s.provider)

/-- A record about the requests themselves. -/
def record (level : Log.Level) (message : String) (extras : Fields Log.Value)
    (failure : Option Log.Failure := none) : Log.Record where
  level := level
  logger := "promguard.telemetry.errors"
  message := message
  extras := ("component", .string "http") :: extras
  failure := failure

/-- The events of a problem. -/
def problemEvents (p : Problem) : Journal :=
  if p.isRecorded then
    [.record (record .info "request rejected"
      [("code", .string p.code), ("error", .string p.detail)])]
  else []

/-- The cause of a breakdown by a document that cannot be written down,
if it cannot. Numbers are met before halves of pairs are. -/
def unwritable? (j : Json) : Option Log.Failure :=
  if !j.isFinite then some ⟨"ValueError", "Out of range float values are not JSON compliant"⟩
  else if !j.isText then some ⟨"UnicodeEncodeError", "surrogates not allowed"⟩
  else none

/-- A reaction that cannot be written down is a breakdown. -/
def settle : Reaction → Reaction
  | .answer (.document j) => ((unwritable? j).map .breakdown).getD (.answer (.document j))
  | .problem p => ((unwritable? (.object p.moreFields)).map .breakdown).getD (.problem p)
  | reaction => reaction

/-- The ids that are made for one request: one when it comes in, and one
when the service breaks down over it. -/
structure FreshIds where
  request : String
  breakdown : String
  request_written : Text.isBlank request = false
  breakdown_written : Text.isBlank breakdown = false

/-- The id of a request: the client's choice, or else the fresh one. -/
def Request.id (r : Request) (fresh : FreshIds) : String := r.chosenId?.getD fresh.request

/-- The id of the response to a request that the service breaks down
over. -/
def Request.idOutside (r : Request) (fresh : FreshIds) : String :=
  (r.header? idHeader).getD fresh.breakdown

/-- Serve a request at a time. -/
def handle {σ : Type} (service : Service) (parser : QueryParser) (provider : Provider σ)
    (now : DateTime) (fresh : FreshIds) (r : Request) (s : State σ) : Response × State σ :=
  let id := r.id fresh
  let (reaction, journal, world) := service.react parser provider now r s
  let after := fun (events : Journal) => (⟨world, s.journal ++ events⟩ : State σ)
  -- Records of the request carry its id; the one of a breakdown is written outside it.
  let inside := journal.under (some id)
  match settle reaction with
  | .answer body => (⟨200, id, body⟩, after inside)
  | .redirect route => (.ofRedirect route id, after inside)
  | .problem p =>
    (.ofProblem p id, after (inside ++ Journal.under (some id) (problemEvents p)))
  | .breakdown cause =>
    (.ofBreakdown (r.idOutside fresh),
      after (inside ++ [.record (record .error "unhandled error" [] (some cause))]))

end Service

end QueryGuard
