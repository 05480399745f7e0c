import QueryGuard.Journal
import QueryGuard.Metadata.Snapshot
import QueryGuard.Time.Range

/-!
# `QueryGuard.Metadata.Fetch`: asking a provider for a snapshot

A provider is asked for a snapshot and answers with one, fails, or does
not answer at all. Asking may change the state that the provider lives
in and leaves events behind.
-/

set_option autoImplicit false

namespace QueryGuard

/-- Why a provider has no snapshot. -/
inductive FetchFailure where
  /-- The backend cannot be reached, or its answer cannot be used. -/
  | unavailable (detail : Wording)
  /-- The time is up. -/
  | timeout (detail : Wording)
  /-- The provider itself broke down. -/
  | fault (cause : Log.Failure)
  deriving DecidableEq, Repr

/-- How asking for something ends. -/
inductive Reply (α : Type) where
  | value (a : α)
  | failure (f : FetchFailure)
  /-- No answer ever comes. -/
  | never
  deriving DecidableEq

/-- The end of one fetch, with the state after it. -/
structure Fetched (σ α : Type) where
  reply : Reply α
  journal : Journal := []
  state : σ

/-- A source of answers in a world of states: asked about a range of
time, in a state. -/
abbrev Source (σ α : Type) := Option TimeRange → σ → Fetched σ α

/-- A provider of snapshots. -/
abbrev Provider (σ : Type) := Source σ Snapshot

/-- A provider that always has the same snapshot, and counts how often
it is asked. -/
def fixedProvider (snapshot : Snapshot) : Provider Nat :=
  fun _ calls => ⟨.value snapshot, [], calls + 1⟩

end QueryGuard
