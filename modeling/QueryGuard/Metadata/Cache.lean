import QueryGuard.Metadata.Fetch

/-!
# `QueryGuard.Metadata.Cache`: one answer, kept for a while

A cache stands before a source and keeps its last answer for a time to
live. Failures are never kept. A fetch has two steps: it looks into the
cache when it starts, and stores what it got when it completes; between
the two the clock may go on and the cache may change.
-/

set_option autoImplicit false

namespace QueryGuard

/-- An answer kept since a time, in a cache of answers of type `α` by a
clock of type `τ`. -/
structure Cache (α τ : Type) where
  /-- How long an answer is good for. -/
  ttl : τ
  held : Option (α × τ) := none

/-- The time to live must be positive. -/
def Cache.ttlMessage : String := "ttl_s must be positive"

namespace Cache

variable {α τ : Type} [Sub τ] [LE τ] [DecidableLE τ]

/-- The answer that is still good at a time, and the cache without one
that is not. -/
def lookup (cache : Cache α τ) (now : τ) : Option α × Cache α τ :=
  match cache.held with
  | none => (none, cache)
  | some (answer, since) =>
    if cache.ttl ≤ now - since then (none, { cache with held := none })
    else (some answer, cache)

/-- The cache with an answer stored at a time. -/
def store (cache : Cache α τ) (answer : α) (now : τ) : Cache α τ :=
  { cache with held := some (answer, now) }

/-- The cache without its answer. -/
def invalidate (cache : Cache α τ) : Cache α τ := { cache with held := none }

/-- The cache after a fetch completed: an answer is stored, a failure
is not. -/
def complete (cache : Cache α τ) (reply : Reply α) (now : τ) : Cache α τ :=
  match reply with
  | .value answer => cache.store answer now
  | _ => cache

end Cache

/-- The name of a cache before a source, which may have none. -/
def cachedName (inner : Option String) : String := "cached:" ++ inner.getD "provider"

/-- The record of an answer from the cache. -/
def cacheHitRecord (name : String) : Log.Record where
  level := .debug
  logger := "promguard.metadata.cache"
  message := "metadata cache hit"
  extras := [("provider", .string name)]

/-- A source behind a cache. The state of the source holds the clock. -/
def cached {σ α τ : Type} [Sub τ] [LE τ] [DecidableLE τ] (name : String) (clock : σ → τ)
    (inner : Source σ α) : Source (Cache α τ × σ) α :=
  fun range (cache, s) =>
    match cache.lookup (clock s) with
    | (some answer, cache) =>
      ⟨.value answer, [.record (cacheHitRecord name)], (cache, s)⟩
    | (none, cache) =>
      let r := inner range s
      ⟨r.reply, r.journal, (cache.complete r.reply (clock r.state), r.state)⟩

/-- Fetches that complete one after the other, each storing what it
got. -/
def completeInOrder {σ α τ : Type} [Sub τ] [LE τ] [DecidableLE τ] (clock : σ → τ)
    (inner : Source σ α) : Nat → Cache α τ × σ → List (Reply α × σ) × (Cache α τ × σ)
  | 0, state => ([], state)
  | n + 1, (cache, s) =>
    let r := inner none s
    let (others, state) :=
      completeInOrder clock inner n (cache.complete r.reply (clock r.state), r.state)
    ((r.reply, r.state) :: others, state)

/-- A number of fetches at once: all look into the cache before any of
them completes, so either the cache answers all, or each goes to the
source. Every reply comes with the source's state after it. -/
def fetchTogether {σ α τ : Type} [Sub τ] [LE τ] [DecidableLE τ] (clock : σ → τ)
    (inner : Source σ α) (n : Nat) (cache : Cache α τ) (s : σ) :
    List (Reply α × σ) × (Cache α τ × σ) :=
  match cache.lookup (clock s) with
  | (some answer, cache) => (List.replicate n (.value answer, s), (cache, s))
  | (none, cache) => completeInOrder clock inner n (cache, s)

instance : Sub Double := ⟨Double.sub⟩

instance : LE Double := ⟨fun x y => Double.le x y = true⟩

instance : DecidableLE Double := fun x y => inferInstanceAs (Decidable (Double.le x y = true))

end QueryGuard
