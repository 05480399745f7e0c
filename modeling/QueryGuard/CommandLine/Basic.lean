import QueryGuard.CommandLine.Arguments
import QueryGuard.CommandLine.File
import QueryGuard.CommandLine.Help
import QueryGuard.Validation

/-!
# `QueryGuard.CommandLine.Basic`: one validation from the command line

The program validates one query. Its verdict is a document on the
standard output, and the exit code says the same: zero for a query that
is safe, one for one that is not, two where nothing could be validated.
Records go to the standard error output.
-/

set_option autoImplicit false

namespace QueryGuard.CommandLine

/-- The name of the program. -/
def programName : String := "promguard-validate"

/-- What a run of the program leaves behind. -/
structure Result where
  code : Nat
  output : String := ""
  /-- What is written to the standard error output besides records. -/
  errors : String := ""
  /-- The command line itself is at fault. -/
  isUsageError : Bool := false
  records : List Log.Record := []

/-- How a run ends: with a result, or by a failure that nobody
expects. -/
inductive Ending where
  | result (r : Result)
  | breakdown (cause : Log.Failure)

/-- The end of a run that cannot validate anything. -/
def refuse (message : String) : Ending :=
  .result { code := 2, errors := "error: " ++ message ++ "\n" }

/-- What a run works with: a policy, a range, and a snapshot if a file
holds it. -/
structure Preparation where
  policy : Option Policy
  range : TimeRange
  snapshot : Option Snapshot

/-- The policy of the arguments. -/
def policyFor (a : Arguments) : Except PolicyError (Option Policy) :=
  RuleList.load (some a.rules) (.int a.maxMetricCardinality) (.int a.maxLabelCardinality)

/-- The end of a run whose time range is refused. -/
def refuseTime (e : TimeError) : Ending :=
  if e.isRefusal then refuse e.message else .breakdown ⟨e.kind, e.message⟩

/-- Prepare a run: the policy first, then the range, then the file. -/
def prepare (a : Arguments) (now : DateTime) (files : Files) : Except Ending Preparation := do
  let policy ← (policyFor a).mapError fun e => refuse e.message
  let range ← (TimeRange.parse a.start a.finish now).mapError refuseTime
  let snapshot ← match a.snapshot with
    | none => .ok none
    | some path => ((readSnapshot files path).map some).mapError fun e => refuse e.message
  return ⟨policy, range, snapshot⟩

/-- The provider of a run: the snapshot of a file, or the backend. -/
def providerFor {σ : Type} (a : Arguments) (p : Preparation) (transport : Backend.Transport σ) :
    Provider σ :=
  match p.snapshot with
  | some snapshot => fun _ s => ⟨.value snapshot, [], s⟩
  | none => Backend.provider a.backend transport

/-- The end of a run that validated its query. -/
def conclude {σ : Type} (a : Arguments) (v : Validated σ) : Ending :=
  match v.outcome with
  | .verdict verdict =>
    .result {
      code := if verdict.safe then 0 else 1
      output := Json.encode .page verdict.toJson ++ "\n"
      records := v.journal.recordsFrom (Log.Level.threshold a.logLevel) }
  | .unsupported e => .breakdown ⟨"ValueError", e.message⟩
  | .waiting => .breakdown ⟨"TimeoutError", ""⟩

/-- Run with arguments that have been read. -/
def runWith {σ : Type} (a : Arguments) (now : DateTime) (parser : QueryParser) (files : Files)
    (transport : Backend.Transport σ) (s : σ) : Ending × σ :=
  match prepare a now files with
  | .error ending => (ending, s)
  | .ok p =>
    let v := Validation.validate a.query (readQuery parser a.query) p.policy
      (some (.double a.timeout)) (some p.range) (providerFor a p transport) s
    (conclude a v, v.state)

/-- The end of a run whose command line asks for nothing. -/
def stopped : Stop → Ending
  | .help => .result { code := 0, output := help }
  | .error e =>
    .result {
      code := 2
      errors := programName ++ ": error: " ++ e.message ++ "\n"
      isUsageError := true }

/-- Run the program. -/
def run {σ : Type} (settings : Settings) (words : List String) (now : DateTime)
    (parser : QueryParser) (files : Files) (transport : Backend.Transport σ) (s : σ) :
    Ending × σ :=
  match Arguments.read settings words with
  | .error stop => (stopped stop, s)
  | .ok a => runWith a now parser files transport s

end QueryGuard.CommandLine
