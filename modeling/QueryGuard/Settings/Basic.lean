import QueryGuard.Metadata.Backend
import QueryGuard.Metadata.Cache
import QueryGuard.Policy.RuleList
import QueryGuard.Settings.Coercion
import QueryGuard.Text.Case

/-!
# `QueryGuard.Settings.Basic`: how the program is set up

Each setting has a name and a value to fall back on. What a caller
gives counts first, then the environment, whose names may be in either
case. All problems are reported together, in the order of the settings.
-/

set_option autoImplicit false

namespace QueryGuard

/-- The settings of the program. -/
structure Settings where
  appName : String := "PromQL Guardrails"
  environment : String := "dev"
  version : String := "0.1.0"
  backendUrl : String := "http://localhost:9090"
  token : Option String := none
  insecure : Bool := false
  statsLimit : Int := 10000
  rules : String := "all"
  maxMetricCardinality : Int := 20000
  maxLabelCardinality : Int := 500
  timeout : Double := .ofInt 30
  cacheTtl : Int := 0
  metricsEnabled : Bool := true
  logJson : Bool := true
  logLevel : String := "INFO"
  deriving DecidableEq, Inhabited

/-- A setting that does not fit. -/
structure SettingError where
  name : String
  problem : SettingProblem
  deriving DecidableEq, Repr

namespace Settings

/-- What was given for the settings. -/
structure Sources where
  /-- Values given by the caller. -/
  given : Fields Json := []
  /-- The environment of the program. -/
  environment : Fields String := []

/-- The value of a variable of the environment; of several names that
differ in case alone the last one counts. -/
def lookUp? (environment : Fields String) (name : String) : Option String :=
  ((environment.reverse.find? fun e => Text.lower e.1 = Text.lower name)).map (·.2)

/-- What was given for a setting. -/
def Sources.find? (sources : Sources) (name : String) : Option Json :=
  (sources.given.lookup name).or ((lookUp? sources.environment name).map Json.string)

/-- Read one setting: the value to fall back on where nothing was
given, and also, noting the problem, where something was that does not
fit. -/
def setting {α : Type} (sources : Sources) (name : String)
    (coerce : Json → Except SettingProblem α) (fallback : α) : StateM (List SettingError) α :=
  match sources.find? name with
  | none => pure fallback
  | some j =>
    match coerce j with
    | .ok a => pure a
    | .error problem => do
      modify (· ++ [⟨name, problem⟩])
      pure fallback

/-- The settings without anything given. -/
def standard : Settings := {}

/-- Read all settings, gathering their problems. -/
def gather (sources : Sources) : StateM (List SettingError) Settings := do
  let read {α : Type} (name : String) (coerce : Json → Except SettingProblem α) (fallback : α) :=
    setting sources name coerce fallback
  return {
    appName := ← read "APP_NAME" Coercion.text standard.appName
    environment := ← read "ENV" Coercion.text standard.environment
    version := ← read "VERSION" Coercion.text standard.version
    backendUrl := ← read "PROMETHEUS_URL" Coercion.text standard.backendUrl
    token := ← read "PROMETHEUS_TOKEN" Coercion.text? standard.token
    insecure := ← read "PROMETHEUS_INSECURE" Coercion.switch standard.insecure
    statsLimit := ← read "TSDB_STATS_LIMIT" (Coercion.integerFrom 1) standard.statsLimit
    rules := ← read "GUARDRAILS" Coercion.text standard.rules
    maxMetricCardinality := ←
      read "GUARDRAILS_MAX_METRIC_CARDINALITY" (Coercion.integerFrom 0)
        standard.maxMetricCardinality
    maxLabelCardinality := ←
      read "GUARDRAILS_MAX_LABEL_CARDINALITY" (Coercion.integerFrom 0)
        standard.maxLabelCardinality
    timeout := ← read "METADATA_TIMEOUT_S" Coercion.positive standard.timeout
    cacheTtl := ← read "METADATA_CACHE_TTL_S" (Coercion.integerFrom 0) standard.cacheTtl
    metricsEnabled := ← read "METRICS_ENABLED" Coercion.switch standard.metricsEnabled
    logJson := ← read "LOG_JSON" Coercion.switch standard.logJson
    logLevel := ← read "LOG_LEVEL" Coercion.text standard.logLevel }

/-- Read the settings, or report all that is wrong with them. -/
def read (sources : Sources) : Except (List SettingError) Settings :=
  match (gather sources).run [] with
  | (settings, []) => .ok settings
  | (_, problems) => .error problems

/-- The fields of the settings. -/
def fields (s : Settings) : Fields Json :=
  [("APP_NAME", .string s.appName), ("ENV", .string s.environment),
    ("VERSION", .string s.version), ("PROMETHEUS_URL", .string s.backendUrl),
    ("PROMETHEUS_TOKEN", Json.ofText? s.token), ("PROMETHEUS_INSECURE", .bool s.insecure),
    ("TSDB_STATS_LIMIT", .int s.statsLimit), ("GUARDRAILS", .string s.rules),
    ("GUARDRAILS_MAX_METRIC_CARDINALITY", .int s.maxMetricCardinality),
    ("GUARDRAILS_MAX_LABEL_CARDINALITY", .int s.maxLabelCardinality),
    ("METADATA_TIMEOUT_S", .number (.double s.timeout)),
    ("METADATA_CACHE_TTL_S", .int s.cacheTtl), ("METRICS_ENABLED", .bool s.metricsEnabled),
    ("LOG_JSON", .bool s.logJson), ("LOG_LEVEL", .string s.logLevel)]

/-- The policy of a rule list, or of the settings' own where none is
given; the thresholds are the settings'. -/
def policy (s : Settings) (rules : Option String) : Except PolicyError (Option Policy) :=
  RuleList.load (some (rules.getD s.rules)) (.int s.maxMetricCardinality)
    (.int s.maxLabelCardinality)

/-- How the backend of the settings is reached. -/
def backend (s : Settings) : Backend.Config where
  baseUrl := s.backendUrl
  token := s.token
  timeout := .double s.timeout
  verifyTls := !s.insecure
  limit := some s.statsLimit

/-- How long answers of the backend are kept, if they are. -/
def keepFor? (s : Settings) : Option Double :=
  if 0 < s.cacheTtl then some (.ofInt s.cacheTtl) else none

/-- The name of the provider that the settings ask for. -/
def providerName (s : Settings) : String :=
  if s.keepFor?.isSome then cachedName (some Backend.providerName) else Backend.providerName

end Settings

end QueryGuard
