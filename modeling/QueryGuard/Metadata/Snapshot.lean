import QueryGuard.Json.Basic
import QueryGuard.Metadata.Counts

/-!
# `QueryGuard.Metadata.Snapshot`: what a backend holds

A snapshot counts the series of each metric and the values of each
label at one moment. It can be given as a document with one section for
each, under either of two names; the counts of a document are whole
numbers from zero on.
-/

set_option autoImplicit false

namespace QueryGuard

/-- The counts of one moment. -/
structure Snapshot where
  /-- Series by metric. -/
  series : Counts
  /-- Values by label. -/
  labels : Counts
  deriving DecidableEq, Inhabited

/-- Why a document is no snapshot. -/
inductive SnapshotError where
  | notAnObject (kind : String)
  | sectionNotAMap (part : String)
  | badCount (part : String) (name : Wording) (value : Json)

/-- The wording of a snapshot error. -/
def SnapshotError.message : SnapshotError → String
  | .notAnObject kind => s!"snapshot must be a JSON object, got {kind}"
  | .sectionNotAMap part => s!"snapshot {Text.quoted part} must map names to counts"
  | .badCount part name value =>
    s!"snapshot {Text.quoted part}: count for {name.quoted} must be a non-negative " ++
      s!"integer, got {value.literal}"

namespace Snapshot

/-- The first of two fields that is there and not null, or else an
empty object. -/
def firstPresent (j : Json) (name other : String) : Json :=
  match j.field? name with
  | some .null | none =>
    match j.field? other with
    | some .null | none => .object []
    | some found => found
  | some found => found

/-- The count that a document gives. -/
def count? : Json → Option Int
  | .number (.int n) => if 0 ≤ n then some n else none
  | _ => none

/-- The counts of the entries of a section, added to those before. -/
def addCounts (part : String) (counts : Counts) :
    List (Wording × Json) → Except SnapshotError Counts
  | [] => .ok counts
  | (name, value) :: rest =>
    match count? value with
    | some n => addCounts part (counts.insert name n) rest
    | none => .error (.badCount part name value)

/-- The counts of a section. -/
def sectionCounts (part : String) (j : Json) : Except SnapshotError Counts :=
  match j.entries? with
  | some entries => addCounts part Counts.empty entries
  | none => .error (.sectionNotAMap part)

/-- The snapshot that a document gives. -/
def ofJson (j : Json) : Except SnapshotError Snapshot :=
  match j.entries? with
  | some _ => do
    let series ← sectionCounts "series" (firstPresent j "series" "seriesCountByMetric")
    let labels ← sectionCounts "labels" (firstPresent j "labels" "labelValueCountByLabel")
    return ⟨series, labels⟩
  | none => .error (.notAnObject j.kindName)

end Snapshot

end QueryGuard
