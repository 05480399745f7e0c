import QueryGuard.Log.Record
import QueryGuard.Metrics.Samples
import QueryGuard.Service.Form
import QueryGuard.Text.Case
import QueryGuard.Text.Split

/-!
# `QueryGuard.Service.Exchange`: requests and responses

A request names a method and a path; what it is about is a route. The
headers say what its body is, and may choose its id. A response
carries the id of its request, which the client may choose.
Every response that reports an error has one form: what went wrong, a
code for it, and the id. A client that only adds slashes to a path is
sent on to the path without them.

Bodies are texts here: bytes that are none are left out, and so are all
other headers, and the pages on which the service describes itself.
-/

set_option autoImplicit false

namespace QueryGuard.Service

/-- A request of a client. -/
structure Request where
  method : String
  path : String
  headers : Fields String := []
  body : String := ""

/-- The header that carries the id of a request. -/
def idHeader : String := "X-Request-ID"

/-- The value of a header, whose name may be in either case; none for
an empty one. -/
def Request.header? (r : Request) (name : String) : Option String :=
  ((r.headers.find? fun h => Text.lower h.1 = Text.lower name).map (·.2)).filter (· != "")

/-- The id that a client chose, without blanks around it. -/
def Request.chosenId? (r : Request) : Option String :=
  ((r.header? idHeader).map Text.strip).filter (· != "")

/-- The header that says what a body is. -/
def typeHeader : String := "Content-Type"

/-- The type of a document, or one that is made of documents. What
follows a semicolon does not count. -/
def isDocumentType (value : String) : Bool :=
  let name := Text.lower (Text.strip (String.ofList (value.toList.takeWhile (· != ';'))))
  match Text.splitAt '/' name.toList with
  | [kind, part] =>
    kind = "application".toList && (part = "json".toList || "+json".toList.isSuffixOf part)
  | _ => false

/-- The body of a request is declared to be a document. One of which
nothing is said counts as declared. -/
def Request.declaresDocument (r : Request) : Bool :=
  ((r.header? typeHeader).map isDocumentType).getD true

/-- What requests are about. -/
inductive Route where
  | health
  | validate
  | policy
  | metrics
  deriving DecidableEq, Repr

namespace Route

/-- All routes. -/
def all : List Route := [.health, .validate, .policy, .metrics]

/-- The path of a route. -/
def path : Route → String
  | .health => "/healthz"
  | .validate => "/v1/validate"
  | .policy => "/v1/guardrails"
  | .metrics => "/metrics"

/-- The one method of a route. -/
def method : Route → String
  | .validate => "POST"
  | _ => "GET"

/-- A path without what follows a question mark or a number sign. -/
def plainPath (path : String) : String :=
  String.ofList (path.toList.takeWhile fun c => c != '?' && c != '#')

/-- A path without slashes at its end. -/
def withoutSlashes (path : String) : String :=
  String.ofList (path.toList.reverse.dropWhile (· = '/')).reverse

/-- The route of a path. -/
def ofPath? (routes : List Route) (path : String) : Option Route :=
  routes.find? fun r => r.path = plainPath path

/-- The route that a path would have without slashes at its end. -/
def instead? (routes : List Route) (path : String) : Option Route :=
  routes.find? fun r => r.path = withoutSlashes (plainPath path)

end Route

/-- What is wrong with a request. -/
inductive Problem where
  | notFound
  | methodNotAllowed
  | unreadableBody
  | invalidForm (complaints : List Complaint)
  | invalidTimeRange (detail : String)
  | invalidPolicy (detail : String)

namespace Problem

/-- The status of a problem. -/
def status : Problem → Nat
  | .notFound => 404
  | .methodNotAllowed => 405
  | .unreadableBody | .invalidTimeRange _ | .invalidPolicy _ => 400
  | .invalidForm _ => 422

/-- The code of a problem. -/
def code : Problem → String
  | .notFound => "not_found"
  | .methodNotAllowed => "method_not_allowed"
  | .unreadableBody => "bad_request"
  | .invalidForm _ => "validation_error"
  | .invalidTimeRange _ => "invalid_time_range"
  | .invalidPolicy _ => "invalid_guardrails"

/-- What a problem says. -/
def detail : Problem → String
  | .notFound => "Not Found"
  | .methodNotAllowed => "Method Not Allowed"
  | .unreadableBody => "There was an error parsing the body"
  | .invalidForm _ => "Validation failed"
  | .invalidTimeRange detail | .invalidPolicy detail => detail

/-- The fields that only some problems have. -/
def moreFields : Problem → Fields Json
  | .invalidForm complaints => [("errors", .array (complaints.map Complaint.toJson))]
  | _ => []

/-- The problem is one of what was asked, and is worth a record. -/
def isRecorded : Problem → Bool
  | .invalidTimeRange _ | .invalidPolicy _ => true
  | _ => false

end Problem

/-- The body of a response. -/
inductive Body where
  | document (j : Json)
  /-- The values of the counters. -/
  | samples (ss : List Sample)
  /-- Nothing but another path, at which to ask. -/
  | elsewhere (path : String)

/-- A response to a client. -/
structure Response where
  status : Nat
  requestId : String
  body : Body

/-- The body of a response that reports an error. -/
def errorBody (detail code requestId : String) (more : Fields Json) : Body :=
  .document (.object ([("detail", .string detail), ("code", .string code),
    ("request_id", .string requestId)] ++ more))

/-- The response that sends a client on to a route. -/
def Response.ofRedirect (route : Route) (requestId : String) : Response :=
  ⟨307, requestId, .elsewhere route.path⟩

/-- The response to a request with a problem. -/
def Response.ofProblem (p : Problem) (requestId : String) : Response :=
  ⟨p.status, requestId, errorBody p.detail p.code requestId p.moreFields⟩

/-- The response of a service that broke down. -/
def Response.ofBreakdown (requestId : String) : Response :=
  ⟨500, requestId, errorBody "Internal server error" "internal_error" requestId []⟩

end QueryGuard.Service
