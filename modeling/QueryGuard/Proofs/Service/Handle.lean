import QueryGuard.Proofs.Json.Truth
import QueryGuard.Proofs.Metrics.Count
import QueryGuard.Service.Basic

/-!
# `QueryGuard.Proofs.Service.Handle`: the ways in which a request ends

A request is answered, or its client is sent on, or it has a problem, or the service
breaks down over it. `handle_cases` gives the response and the state after each of
these, so that nothing else needs to look into how requests are served.

The end differs from the reaction to the request in one case: a reaction that repeats
what no response can be written with is a breakdown (`settle_of_not_written`). That is
so for an answer as well as for a problem, and it does not take back what the request
has left behind.
-/

set_option autoImplicit false

namespace QueryGuard.Service

/-- The status of a problem is that of an error, and not that of a breakdown. -/
theorem Problem.status_bounds (p : Problem) : 400 ≤ p.status ∧ p.status < 500 := by
  cases p <;> simp [status]

/-! ### What can be written down -/

/-- What a reaction repeats can be written down. -/
def Reaction.Written : Reaction → Prop
  | .answer (.document j) => j.Sendable
  | .problem p => (Json.object p.moreFields).Sendable
  | _ => True

/-- What can be sent is written. -/
theorem unwritable?_of_sendable {j : Json} (h : j.Sendable) : unwritable? j = none := by
  unfold unwritable?
  rw [h.1, h.2]
  rfl

/-- What cannot be sent stops the writer with a cause. -/
theorem exists_unwritable?_of_not_sendable {j : Json} (h : ¬ j.Sendable) :
    ∃ cause, unwritable? j = some cause := by
  unfold unwritable?
  cases hfinite : j.isFinite with
  | false => exact ⟨_, rfl⟩
  | true =>
    cases htext : j.isText with
    | false => exact ⟨_, rfl⟩
    | true => exact absurd ⟨hfinite, htext⟩ h

/-- A reaction that can be written is the outcome. -/
theorem settle_of_written {reaction : Reaction} (h : reaction.Written) :
    settle reaction = reaction := by
  cases reaction with
  | answer body =>
    cases body with
    | document j =>
      rw [settle, unwritable?_of_sendable h]
      rfl
    | _ => rfl
  | problem p =>
    rw [settle, unwritable?_of_sendable h]
    rfl
  | _ => rfl

/-- Any other breaks down on the way out. -/
theorem settle_of_not_written {reaction : Reaction} (h : ¬ reaction.Written) :
    ∃ cause, settle reaction = .breakdown cause := by
  -- Only documents and problems are written as text, so only these can fail.
  cases reaction with
  | answer body =>
    cases body with
    | document j =>
      obtain ⟨cause, hcause⟩ := exists_unwritable?_of_not_sendable h
      refine ⟨cause, ?_⟩
      rw [settle, hcause]
      rfl
    | _ => exact absurd trivial h
  | problem p =>
    obtain ⟨cause, hcause⟩ := exists_unwritable?_of_not_sendable h
    refine ⟨cause, ?_⟩
    rw [settle, hcause]
    rfl
  | _ => exact absurd trivial h

/-! ### What is left behind -/

/-- The events that are left behind by a request with a problem. -/
def problemJournal (id : String) (journal : Journal) (p : Problem) : Journal :=
  journal.under (some id) ++ Journal.under (some id) (problemEvents p)

/-- The events that are left behind by a breakdown. -/
def breakdownJournal (id : String) (journal : Journal) (cause : Log.Failure) : Journal :=
  journal.under (some id) ++ [.record (record .error "unhandled error" [] (some cause))]

section
variable {journal : Journal} {name : String} {labels : Fields String}

/-- What is written about a problem moves no counter. -/
theorem count_problemJournal (id : String) (p : Problem) :
    (problemJournal id journal p).count name labels = journal.count name labels := by
  have hevents : (problemEvents p).count name labels = 0 := by
    unfold problemEvents
    split <;> rfl
  rw [problemJournal, Journal.count_append, Journal.count_under, Journal.count_under, hevents,
    Nat.add_zero]

/-- What is written about a breakdown moves no counter. -/
theorem count_breakdownJournal (id : String) (cause : Log.Failure) :
    (breakdownJournal id journal cause).count name labels = journal.count name labels := by
  rw [breakdownJournal, Journal.count_append, Journal.count_under, Journal.count_record_cons,
    Journal.count_nil, Nat.add_zero]

end

/-! ### The response -/

section
variable {σ : Type} {service : Service} {parser : QueryParser} {provider : Provider σ}
  {now : DateTime} {fresh : FreshIds} {r : Request} {s : State σ} {reaction : Reaction}
  {journal : Journal} {later : σ}

/-- A request ends with an answer, with a redirect or with a problem, each under its id, or
with a breakdown, which reads the id of its response off the header again. -/
theorem handle_cases (fresh : FreshIds)
    (h : service.react parser provider now r s = (reaction, journal, later)) :
    (∃ body, reaction = .answer body ∧ reaction.Written ∧
      service.handle parser provider now fresh r s =
        (⟨200, r.id fresh, body⟩, ⟨later, s.journal ++ journal.under (some (r.id fresh))⟩)) ∨
    (∃ route, reaction = .redirect route ∧
      service.handle parser provider now fresh r s =
        (.ofRedirect route (r.id fresh),
          ⟨later, s.journal ++ journal.under (some (r.id fresh))⟩)) ∨
    (∃ p, reaction = .problem p ∧ reaction.Written ∧
      service.handle parser provider now fresh r s =
        (.ofProblem p (r.id fresh), ⟨later, s.journal ++ problemJournal (r.id fresh) journal p⟩)) ∨
    (reaction.Written → ∃ cause, reaction = .breakdown cause) ∧ ∃ cause,
      service.handle parser provider now fresh r s =
        (.ofBreakdown (r.idOutside fresh),
          ⟨later, s.journal ++ breakdownJournal (r.id fresh) journal cause⟩) := by
  unfold handle
  rw [h]
  -- What cannot be written has become a breakdown before the response is formed.
  by_cases hwritten : reaction.Written
  · have hsettle := settle_of_written hwritten
    cases reaction with
    | answer body => exact .inl ⟨body, rfl, hwritten, by simp only [hsettle]⟩
    | redirect route => exact .inr (.inl ⟨route, rfl, rfl⟩)
    | problem p =>
      exact .inr (.inr (.inl ⟨p, rfl, hwritten, by simp only [hsettle, problemJournal]⟩))
    | breakdown cause => exact .inr (.inr (.inr ⟨fun _ => ⟨cause, rfl⟩, cause, rfl⟩))
  · obtain ⟨cause, hsettle⟩ := settle_of_not_written hwritten
    refine .inr (.inr (.inr ⟨fun h => absurd h hwritten, cause, ?_⟩))
    simp only [hsettle, breakdownJournal]

/-- An answer that can be written is sent with the request's own id. -/
theorem response_of_answer {body : Body}
    (h : service.react parser provider now r s = (.answer body, journal, later))
    (hwritten : (Reaction.answer body).Written) :
    (service.handle parser provider now fresh r s).1 = ⟨200, r.id fresh, body⟩ := by
  unfold handle
  rw [h]
  simp only [settle_of_written hwritten]

/-- A problem is the response, if what it repeats can be written down. -/
theorem response_of_problem {p : Problem}
    (h : service.react parser provider now r s = (.problem p, journal, later))
    (hwritten : (Json.object p.moreFields).Sendable) :
    (service.handle parser provider now fresh r s).1 = .ofProblem p (r.id fresh) := by
  have hsettle : settle (.problem p) = .problem p := settle_of_written hwritten
  unfold handle
  rw [h]
  simp only [hsettle]

/-- A breakdown is answered outside the scope of the request, with the id known there. -/
theorem response_of_breakdown {cause : Log.Failure}
    (h : service.react parser provider now r s = (.breakdown cause, journal, later)) :
    (service.handle parser provider now fresh r s).1 = .ofBreakdown (r.idOutside fresh) := by
  unfold handle
  rw [h]
  rfl

/-- A reaction that cannot be written down breaks the service down. -/
theorem response_of_not_written
    (h : service.react parser provider now r s = (reaction, journal, later))
    (hnot : ¬ reaction.Written) :
    (service.handle parser provider now fresh r s).1 = .ofBreakdown (r.idOutside fresh) := by
  obtain ⟨cause, hsettle⟩ := settle_of_not_written hnot
  unfold handle
  rw [h]
  simp only [hsettle]

end

end QueryGuard.Service
