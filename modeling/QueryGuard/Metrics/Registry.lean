/-!
# `QueryGuard.Metrics.Registry`: metrics by name

A metric claims several names, and no two metrics share one. A metric
that is asked for again is found by its name; one that another claim
stands in the way of is looked for under its longer name too.
-/

set_option autoImplicit false

namespace QueryGuard.Metrics

/-- The kinds of metrics. -/
inductive Kind where
  | counter
  | histogram
  deriving DecidableEq, Repr

/-- A metric, by the number it was created under. -/
structure Metric where
  id : Nat
  kind : Kind
  deriving DecidableEq, Repr

/-- Why a metric cannot be had. -/
inductive RegistryError where
  /-- A name is taken. -/
  | duplicate
  /-- A label is reserved. -/
  | reservedLabel (label : String)
  /-- Nothing is left of the name. -/
  | emptyName
  deriving DecidableEq, Repr

/-- The metrics there are: who claims which name, and how many have
been created. -/
structure Registry where
  claims : List (String × Metric) := []
  created : Nat := 0

namespace Kind

/-- The name of a kind. -/
def name : Kind → String
  | .counter => "Counter"
  | .histogram => "Histogram"

/-- The end of a counter's sample. -/
def totalEnding : String := "_total"

/-- The name of a counter without the ending that its samples add. -/
def baseName (name : String) : String :=
  if name.endsWith totalEnding then
    String.ofList (name.toList.take (name.length - totalEnding.length))
  else name

/-- The names that a metric claims. -/
def claimedNames : Kind → String → List String
  | .counter, name =>
    let base := baseName name
    [base, base ++ totalEnding, base ++ "_created"]
  | .histogram, name => name :: ["_bucket", "_sum", "_count", "_created"].map (name ++ ·)

/-- The longer name under which a metric is looked for. -/
def longName : Kind → String → String
  | .counter, name => name ++ totalEnding
  | .histogram, name => name ++ "_count"

/-- Labels that a metric must not have. -/
def isReserved (kind : Kind) (label : String) : Bool :=
  label.startsWith "__" || (kind = .histogram && label = "le")

end Kind

namespace Registry

/-- The metric of a kind that claims a name. -/
def find? (r : Registry) (kind : Kind) (name : String) : Option Metric :=
  (r.claims.lookup name).filter (·.kind = kind)

/-- A registry with a new metric. -/
def create (r : Registry) (kind : Kind) (name : String) (labels : List String) :
    Except RegistryError (Metric × Registry) :=
  match labels.find? kind.isReserved with
  | some label => .error (.reservedLabel label)
  | none =>
    let names := kind.claimedNames name
    if names.contains "" then .error .emptyName
    else if names.any fun n => r.claims.any (·.1 = n) then .error .duplicate
    else
      let metric : Metric := ⟨r.created, kind⟩
      .ok (metric, ⟨names.map (·, metric) ++ r.claims, r.created + 1⟩)

/-- The metric that stands in a new one's way, if it will do: the one
under the longer name, or else the one under the name. -/
def standIn? (r : Registry) (kind : Kind) (name : String) : Option Metric :=
  match r.claims.lookup (kind.longName name) with
  | some metric => if metric.kind = kind then some metric else none
  | none => r.find? kind name

/-- The metric of a name, created unless it is there. -/
def getOrCreate (r : Registry) (kind : Kind) (name : String) (labels : List String) :
    Except RegistryError (Metric × Registry) :=
  match r.find? kind name with
  | some metric => .ok (metric, r)
  | none =>
    match r.create kind name labels with
    | .ok made => .ok made
    | .error e =>
      -- A metric of another kind under the longer name hides one under the name itself.
      match r.standIn? kind name with
      | some metric => .ok (metric, r)
      | none => .error e

end Registry

end QueryGuard.Metrics
