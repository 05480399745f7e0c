import QueryGuard.Assessment
import QueryGuard.Metadata.Fetch
import QueryGuard.Query.Reading

/-!
# `QueryGuard.Validation`: is a query safe to run?

A query that has no tree is rejected; without a policy every other one
is allowed. Under a policy the provider is asked for one snapshot, which
all rules share. No snapshot, no permission: a provider that fails, or
does not answer before the deadline, rejects the query.

`validate` tells the verdict, the events, and the provider's state
afterwards. There are two other outcomes: a tree may hold a comparison
that is none of the four, and a provider that never answers is waited
for unless there is a deadline.
-/

set_option autoImplicit false

namespace QueryGuard

/-- How a validation ends. -/
inductive Outcome where
  | verdict (v : Verdict)
  /-- The tree holds an unknown comparison. -/
  | unsupported (e : UnsupportedOperator)
  /-- The provider is waited for without end. -/
  | waiting

/-- The end of a validation. -/
structure Validated (σ : Type) where
  outcome : Outcome
  journal : Journal := []
  state : σ

namespace Validation

/-- A record of a validation. -/
def record (level : Log.Level) (message : String) (extras : Fields Log.Value)
    (failure : Option Log.Failure := none) : Log.Record where
  level := level
  logger := "promguard.guardrails.engine"
  message := message
  extras := ("component", .string "guardrails") :: extras
  failure := failure

/-- The record of a verdict. -/
def verdictRecord (query : Wording) (v : Verdict) : Log.Record :=
  if v.safe then record .debug "query allowed" [("query", .ofWording query)]
  else record .info "query rejected"
    [("query", .ofWording query), ("rule", Log.Value.ofText? (v.rule.map Rule.name))]

/-- The events of a verdict: it is counted, then written down. -/
def verdictEvents (query : Wording) (v : Verdict) : Journal :=
  [.verdict v.safe v.rule, .record (verdictRecord query v)]

/-- A validation that ends with a verdict. -/
def conclude {σ : Type} (query : Wording) (v : Verdict) (journal : Journal) (s : σ) :
    Validated σ :=
  ⟨.verdict v, journal ++ verdictEvents query v, s⟩

/-- A deadline that no provider can meet. -/
def hasPassed (deadline : Option Number) : Bool := deadline.any fun d => !d.isPositive

/-- The text of a deadline inside a message. -/
def deadlineText (deadline : Option Number) : String := (deadline.map Number.text).getD "None"

/-- What is found when the time is up. -/
def timeoutFinding (deadline : Option Number) : Finding :=
  .metadataUnavailable (some s!"metadata fetch timed out after {deadlineText deadline}s")

/-- The record of a time that is up. -/
def timeoutRecord (deadline : Option Number) : Log.Record :=
  record .warning "metadata fetch timed out" [("timeout_s", Log.Value.ofNumber? deadline)]

/-- What is found when a provider fails. -/
def failureFinding (deadline : Option Number) : FetchFailure → Finding
  | .timeout _ => timeoutFinding deadline
  | .unavailable detail => .metadataUnavailable (some detail)
  | .fault cause => .metadataUnavailable (some (cause.kind ++ ": " ++ cause.text))

/-- The record of a provider that fails. -/
def failureRecord (deadline : Option Number) : FetchFailure → Log.Record
  | .timeout _ => timeoutRecord deadline
  | .unavailable detail => record .warning "metadata unavailable" [("error", .ofWording detail)]
  | .fault cause => record .warning "metadata provider failed" [] (some cause)

/-- A validation whose time is up. -/
def timeUp {σ : Type} (query : Wording) (deadline : Option Number) (journal : Journal) (s : σ) :
    Validated σ :=
  conclude query (.ofFinding (timeoutFinding deadline))
    (journal ++ [.record (timeoutRecord deadline)]) s

/-- A validation whose provider was asked. -/
def settle {σ : Type} (query : Wording) (policy : Policy) (deadline : Option Number)
    (selectors : List Selector) (fetched : Fetched σ Snapshot) : Validated σ :=
  match fetched.reply with
  | .value snapshot =>
    conclude query (.ofFinding? (Assessment.assess policy query selectors snapshot))
      fetched.journal fetched.state
  | .failure f =>
    conclude query (.ofFinding (failureFinding deadline f))
      (fetched.journal ++ [.record (failureRecord deadline f)]) fetched.state
  | .never =>
    if deadline.isSome then timeUp query deadline fetched.journal fetched.state
    else ⟨.waiting, fetched.journal, fetched.state⟩

/-- Validate a query that has been read, under a policy if there is
one, against a provider in some state. A deadline that has passed leaves
the provider alone. -/
def validate {σ : Type} (query : Wording) (tree : Except QueryError Node)
    (policy : Option Policy) (deadline : Option Number) (range : Option TimeRange)
    (provider : Provider σ) (s : σ) : Validated σ :=
  match tree with
  | .error e => conclude query (.ofFinding (.syntaxError query e.detail)) [] s
  | .ok node =>
    match policy with
    | none => conclude query .allow [] s
    | some policy =>
      -- Comparisons are settled before the fetch: a query that cannot be read asks for nothing.
      match node.selectors.mapM SelectorNode.resolve with
      | .error e => ⟨.unsupported e, [], s⟩
      | .ok selectors =>
        if hasPassed deadline then timeUp query deadline [] s
        else settle query policy deadline selectors (provider range s)

end Validation

end QueryGuard
