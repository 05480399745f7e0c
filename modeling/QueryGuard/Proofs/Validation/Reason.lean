import QueryGuard.Proofs.Json.Truth
import QueryGuard.Proofs.Validation.Run

/-!
# `QueryGuard.Proofs.Validation.Reason`: reasons that can be sent

The reason of a verdict repeats what others have said: the query, and what a provider
says of its failure. Everything else in it consists of characters. So it consists of
characters as long as these two do (`Validation.inCharacters_of_outcome`), and then the
verdict can be sent (`Verdict.sendable_toJson_iff`).

A query that came in a form consists of characters. The words of a backend need not, for
its status document may hold any text.
-/

set_option autoImplicit false

namespace QueryGuard

/-! ### Findings -/

/-- What a finding repeats consists of characters. -/
def Finding.InCharacters : Finding → Prop
  | .syntaxError query _ | .labelNotFound _ query | .explicitNameLabel query
  | .blanketRegexDisallowed query _ | .labelCardinalityExceeded query .. => query.isPlain = true
  | .metadataUnavailable detail => ∀ w, detail = some w → w.isPlain = true
  | .metricNotFound _ | .missingLabelMatcher _ | .metricCardinalityExceeded .. => True

namespace Finding

variable {f : Finding}

/-- The added sentence is plain text when the detail it repeats is. -/
theorem isPlain_detailSentence {detail : Option Wording}
    (h : ∀ w, detail = some w → w.isPlain = true) : (detailSentence detail).isPlain = true := by
  unfold detailSentence
  split
  · next w =>
    obtain ⟨text, rfl⟩ := Wording.isPlain_iff.1 (h w rfl)
    split
    · rfl
    · simp only [← Wording.ofString_append, Wording.isPlain_ofString]
  · rfl

/-- The message of a finding is put together from what it repeats, from names, and from
words of its own. -/
theorem isPlain_message (h : f.InCharacters) : f.message.isPlain = true := by
  refine Wording.isPlain_append (Wording.isPlain_ofString _) ?_
  cases f with
  | metricNotFound metric =>
    simp only [remainder, ← Wording.ofString_append, Wording.isPlain_ofString]
  | missingLabelMatcher metric =>
    simp only [remainder, ← Wording.ofString_append, Wording.isPlain_ofString]
  | metricCardinalityExceeded metric count limit =>
    simp only [remainder, ← Wording.ofString_append, Wording.isPlain_ofString]
  | metadataUnavailable detail =>
    obtain ⟨text, htext⟩ := Wording.isPlain_iff.1 (isPlain_detailSentence h)
    simp only [remainder, ← htext, ← Wording.ofString_append, Wording.isPlain_ofString]
  | _ =>
    -- These repeat the query, which is a text here.
    obtain ⟨text, rfl⟩ := Wording.isPlain_iff.1 h
    simp only [remainder, ← Wording.ofString_append, Wording.isPlain_ofString]

end Finding

/-- An assessment repeats nothing but the query. -/
theorem Assessment.inCharacters_of_assess {policy : Policy} {query : Wording}
    {selectors : List Selector} {snapshot : Snapshot} {f : Finding} (hquery : query.isPlain = true)
    (h : assess policy query selectors snapshot = some f) : f.InCharacters := by
  cases assess_eq_some_iff.1 h <;> first | exact hquery | trivial

/-! ### Providers -/

/-- What a provider says of its failure consists of characters. -/
def FetchFailure.InCharacters : FetchFailure → Prop
  | .unavailable detail => detail.isPlain = true
  | .timeout _ => True
  | .fault cause => cause.text.isPlain = true

/-- What is replied consists of characters, if it is that there is no snapshot. -/
def Reply.InCharacters {α : Type} (reply : Reply α) : Prop :=
  ∀ f, reply = .failure f → f.InCharacters

/-- A source whose failures are told in characters, in every state. -/
def Source.FailsInCharacters {σ α : Type} (source : Source σ α) : Prop :=
  ∀ range s, (source range s).reply.InCharacters

/-- The reason of a verdict consists of characters, if it has one. -/
def Verdict.InCharacters (v : Verdict) : Prop := ∀ w, v.reason = some w → w.isPlain = true

/-- A verdict's texts are its finding's texts. -/
theorem Verdict.inCharacters_ofFinding {f : Finding} (h : f.InCharacters) :
    (ofFinding f).InCharacters := by
  intro w hw
  cases hw
  exact Finding.isPlain_message h

/-- The safe verdict carries no text at all. -/
theorem Verdict.inCharacters_allow : allow.InCharacters := nofun

/-- A verdict can be sent if its reason consists of characters. -/
theorem Verdict.sendable_toJson_iff {v : Verdict} : v.toJson.Sendable ↔ v.InCharacters := by
  have hrule : (Json.ofText? (v.rule.map Rule.name)).Sendable := by
    cases v.rule with
    | none => exact Json.sendable_null
    | some rule => exact Json.sendable_string rule.name
  -- Of the three fields only the reason can hold a lone half.
  have hreason : (Json.ofWording? v.reason).Sendable ↔ v.InCharacters := by
    unfold InCharacters
    cases v.reason with
    | none => exact iff_of_true Json.sendable_null nofun
    | some w =>
      show (Json.ofWording w).Sendable ↔ _
      rw [Json.sendable_ofWording_iff]
      exact ⟨fun h other hother => Option.some.inj hother ▸ h, fun h => h w rfl⟩
  unfold toJson
  rw [Json.sendable_object_iff, List.forall_mem_cons, List.forall_mem_cons,
    List.forall_mem_singleton, hreason]
  exact ⟨fun h => h.2.1, fun h => ⟨Json.sendable_bool v.safe, h, hrule⟩⟩

namespace Validation

variable {σ : Type} {query : Wording} {tree : Except QueryError Node} {policy : Option Policy}
  {deadline : Option Number} {range : Option TimeRange} {provider : Provider σ} {s : σ} {v : Verdict}

/-- A fetch failure's finding is in characters when the failure's own text is. -/
theorem inCharacters_failureFinding {f : FetchFailure} (h : f.InCharacters) :
    (failureFinding deadline f).InCharacters := by
  cases f with
  | unavailable detail =>
    rintro w ⟨⟩
    exact h
  | timeout detail =>
    rintro w ⟨⟩
    exact Wording.isPlain_ofString _
  | fault cause =>
    rintro w ⟨⟩
    simp only [Wording.isPlain_append, Wording.isPlain_ofString, show cause.text.isPlain = true from h]

/-- The deadline's finding has only fixed words and a number. -/
theorem inCharacters_timeoutFinding : (timeoutFinding deadline).InCharacters := by
  rintro w ⟨⟩
  exact Wording.isPlain_ofString _

/-- The reason of a verdict consists of characters if the query does, and what the
provider says if it fails. -/
theorem inCharacters_of_outcome (hquery : query.isPlain = true)
    (hreply : (provider range s).reply.InCharacters)
    (h : (validate query tree policy deadline range provider s).outcome = .verdict v) :
    v.InCharacters := by
  have hfinding {f : Finding} (hf : f.InCharacters)
      (hv : Outcome.verdict (.ofFinding f) = .verdict v) : v.InCharacters := by
    cases hv
    exact Verdict.inCharacters_ofFinding hf
  have hallow (hv : Outcome.verdict .allow = .verdict v) : v.InCharacters := by
    cases hv
    exact Verdict.inCharacters_allow
  unfold validate at h
  cases tree with
  | error e => exact hfinding (f := .syntaxError query e.detail) hquery h
  | ok node =>
    cases policy with
    | none => exact hallow h
    | some policy =>
      simp only at h
      split at h
      · cases h
      · split at h
        · exact hfinding inCharacters_timeoutFinding h
        · rw [outcome_settle] at h
          -- What remains are the three replies of a provider that was asked.
          split at h
          · next snapshot _ =>
            cases hfound : Assessment.assess policy query _ snapshot with
            | none =>
              rw [hfound] at h
              exact hallow h
            | some f =>
              rw [hfound] at h
              exact hfinding (Assessment.inCharacters_of_assess hquery hfound) h
          · next f hf => exact hfinding (inCharacters_failureFinding (hreply f hf)) h
          · split at h
            · exact hfinding inCharacters_timeoutFinding h
            · cases h

end Validation

end QueryGuard
