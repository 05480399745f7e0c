import QueryGuard.Proofs.Assessment.Blame
import QueryGuard.Validation

/-!
# `QueryGuard.Proofs.Validation.Run`: the course of a validation

A validation of a query that has a tree, under a policy, goes one of three
ways: a comparison is unknown, the time is up before the provider is asked,
or the provider is asked. `validate_of_resolves` leaves the last two, and
`outcome_settle` says how the run ends for each reply of the provider.
`outcome_of_answersInTime` is the case where a snapshot arrives in time
(`AnswersInTime`), in which the assessment of the query takes over. There
`isSafe_iff_forall_reaches` reads a safe verdict selector by selector, and
`exists_verdict` says that known comparisons are all a verdict needs; without
a snapshot in time there is one too, if the provider answers at all or there
is a deadline (`exists_verdict_of_ends`).

`counted` puts a counter in front of a provider, and `calls` reads it off
after a run. Validation is the same for every type of provider state, and
the reply that it goes by is passed on (`outcome_congr`), so the counter sees
every call and changes nothing else.
-/

set_option autoImplicit false

namespace QueryGuard

/-- A validation ends with a verdict that lets the query run. -/
def Outcome.IsSafe (o : Outcome) : Prop := ∃ v, o = .verdict v ∧ v.safe = true

namespace Verdict

/-- A finding is never safe. -/
@[simp] theorem safe_ofFinding (f : Finding) : (ofFinding f).safe = false := rfl

/-- A verdict is safe exactly when nothing was found. -/
theorem safe_ofFinding?_iff {found : Option Finding} :
    (ofFinding? found).safe = true ↔ found = none := by
  cases found <;> simp [ofFinding?, allow]

/-- The verdict's rule is the finding's, and absent with it. -/
theorem rule_ofFinding? (found : Option Finding) :
    (ofFinding? found).rule = found.map Finding.rule := by
  cases found <;> rfl

/-- Safety can be read off the rule alone. -/
theorem safe_ofFinding? (found : Option Finding) :
    (ofFinding? found).safe = (found.map Finding.rule).isNone := by
  cases found <;> rfl

end Verdict

namespace Validation

/-- A deadline that leaves time to ask: none at all, or one above zero. -/
def LeavesTime (deadline : Option Number) : Prop :=
  ∀ d, deadline = some d → d.isPositive = true

/-- A provider, asked in a state about a range, has a snapshot before the
deadline. -/
structure AnswersInTime {σ : Type} (deadline : Option Number) (range : Option TimeRange)
    (provider : Provider σ) (s : σ) (snapshot : Snapshot) : Prop where
  leavesTime : LeavesTime deadline
  reply : (provider range s).reply = .value snapshot

/-- A provider that has its snapshot at hand. -/
theorem answersInTime_fixedProvider (snapshot : Snapshot) :
    AnswersInTime none none (fixedProvider snapshot) 0 snapshot :=
  ⟨nofun, rfl⟩

/-- A deadline has not passed exactly when it leaves time. -/
theorem hasPassed_eq_false_iff {deadline : Option Number} :
    hasPassed deadline = false ↔ LeavesTime deadline := by
  cases deadline <;> simp [hasPassed, LeavesTime]

/-! ### How a run ends -/

section
variable {σ : Type} {query : Wording} {policy : Policy} {deadline : Option Number}
  {selectors : List Selector} {fetched : Fetched σ Snapshot}

/-- How a validation ends depends on the provider's reply alone. -/
theorem outcome_settle :
    (settle query policy deadline selectors fetched).outcome =
      match fetched.reply with
      | .value snapshot =>
        .verdict (.ofFinding? (Assessment.assess policy query selectors snapshot))
      | .failure f => .verdict (.ofFinding (failureFinding deadline f))
      | .never =>
        if deadline.isSome then .verdict (.ofFinding (timeoutFinding deadline)) else .waiting := by
  unfold settle
  cases fetched.reply with
  | value snapshot => rfl
  | failure f => rfl
  | never => cases deadline <;> rfl

end

section
variable {σ : Type} {query : Wording} {node : Node} {policy : Policy}
  {deadline : Option Number} {range : Option TimeRange} {provider : Provider σ} {s : σ}

/-- A validation whose comparisons are known: the deadline decides whether
the provider is asked. -/
theorem validate_of_resolves {selectors : List Selector}
    (h : List.Forall₂ SelectorNode.ResolvesTo node.walk selectors) :
    validate query (.ok node) (some policy) deadline range provider s =
      if hasPassed deadline then timeUp query deadline [] s
      else settle query policy deadline selectors (provider range s) := by
  simp only [validate]
  rw [mapM_resolve_eq_ok_iff.2 h]

/-- A validation with time left asks the provider. -/
theorem validate_of_leavesTime {selectors : List Selector}
    (h : List.Forall₂ SelectorNode.ResolvesTo node.walk selectors) (ht : LeavesTime deadline) :
    validate query (.ok node) (some policy) deadline range provider s =
      settle query policy deadline selectors (provider range s) := by
  rw [validate_of_resolves h, hasPassed_eq_false_iff.2 ht, if_neg Bool.false_ne_true]

/-- The outcome once a snapshot is there. -/
theorem outcome_of_answersInTime {snapshot : Snapshot} {selectors : List Selector}
    (ha : AnswersInTime deadline range provider s snapshot)
    (h : List.Forall₂ SelectorNode.ResolvesTo node.walk selectors) :
    (validate query (.ok node) (some policy) deadline range provider s).outcome =
      .verdict (.ofFinding? (Assessment.assess policy query selectors snapshot)) := by
  rw [validate_of_leavesTime h ha.leavesTime, outcome_settle, ha.reply]

/-- A validation without a snapshot in time: the verdict is that the query
could not be checked, unless the provider is waited for without end. -/
theorem outcome_of_not_answersInTime {selectors : List Selector}
    (h : List.Forall₂ SelectorNode.ResolvesTo node.walk selectors)
    (hnot : ∀ snapshot, ¬ AnswersInTime deadline range provider s snapshot)
    (hends : deadline = none → (provider range s).reply ≠ .never) :
    ∃ detail, (validate query (.ok node) (some policy) deadline range provider s).outcome =
      .verdict (.ofFinding (.metadataUnavailable detail)) := by
  cases hpassed : hasPassed deadline with
  | true =>
    rw [validate_of_resolves h, if_pos hpassed]
    exact ⟨_, rfl⟩
  | false =>
    -- The provider is asked, and each of its replies but a snapshot is a rejection.
    have ht := hasPassed_eq_false_iff.1 hpassed
    rw [validate_of_leavesTime h ht, outcome_settle]
    cases hreply : (provider range s).reply with
    | value snapshot => exact absurd ⟨ht, hreply⟩ (hnot snapshot)
    | failure f => cases f <;> exact ⟨_, rfl⟩
    | never =>
      cases deadline with
      | none => exact absurd hreply (hends rfl)
      | some d => exact ⟨_, rfl⟩

/-- The outcome when a comparison is unknown, whatever the provider does. -/
theorem outcome_of_unsupported {e : UnsupportedOperator}
    (h : node.selectors.mapM SelectorNode.resolve = .error e) :
    (validate query (.ok node) (some policy) deadline range provider s).outcome =
      .unsupported e := by
  simp only [validate]
  rw [h]

/-- The verdict once a snapshot is there, if there is one: that of the
assessment, with all comparisons known. -/
theorem outcome_eq_verdict_iff {snapshot : Snapshot} {v : Verdict}
    (ha : AnswersInTime deadline range provider s snapshot) :
    (validate query (.ok node) (some policy) deadline range provider s).outcome = .verdict v ↔
      ∃ selectors, List.Forall₂ SelectorNode.ResolvesTo node.walk selectors ∧
        v = .ofFinding? (Assessment.assess policy query selectors snapshot) := by
  constructor
  · intro hv
    cases h : node.selectors.mapM SelectorNode.resolve with
    | error e =>
      rw [outcome_of_unsupported h] at hv
      cases hv
    | ok selectors =>
      have hall := mapM_resolve_eq_ok_iff.1 h
      rw [outcome_of_answersInTime ha hall] at hv
      exact ⟨selectors, hall, (Outcome.verdict.inj hv).symm⟩
  · rintro ⟨selectors, hall, rfl⟩
    exact outcome_of_answersInTime ha hall

/-- How a validation ends depends on the reply alone that the provider has for
it: neither on the provider's state nor on the rest of what it does. -/
theorem outcome_congr {τ : Type} {tree : Except QueryError Node} {policy : Option Policy}
    {other : Provider τ} {t : τ} (h : (provider range s).reply = (other range t).reply) :
    (validate query tree policy deadline range provider s).outcome =
      (validate query tree policy deadline range other t).outcome := by
  unfold validate
  -- The provider's reply is looked at in the last case alone.
  cases tree with
  | error e => rfl
  | ok node =>
    cases policy with
    | none => rfl
    | some policy =>
      simp only
      split
      · rfl
      · split
        · rfl
        · rw [outcome_settle, outcome_settle, h]

/-- With known comparisons there is a verdict, unless the provider is waited for without
end. -/
theorem exists_verdict_of_ends {tree : Except QueryError Node} {policy : Option Policy}
    (supported : ∀ node, tree = .ok node → node.Supported)
    (ends : deadline = none → (provider range s).reply ≠ .never) :
    ∃ v, (validate query tree policy deadline range provider s).outcome = .verdict v := by
  cases tree with
  | error e => exact ⟨_, rfl⟩
  | ok node =>
    cases policy with
    | none => exact ⟨_, rfl⟩
    | some policy =>
      obtain ⟨selectors, hall⟩ := (supported node rfl).resolves
      -- A provider that gives no snapshot in time still leaves a verdict, the one about
      -- missing metadata.
      by_cases hsnapshot : ∃ snapshot, AnswersInTime deadline range provider s snapshot
      · obtain ⟨snapshot, ha⟩ := hsnapshot
        exact ⟨_, outcome_of_answersInTime ha hall⟩
      · obtain ⟨detail, houtcome⟩ :=
          outcome_of_not_answersInTime hall (not_exists.1 hsnapshot) ends
        exact ⟨_, houtcome⟩

/-- With a snapshot in time and known comparisons there is a verdict. -/
theorem exists_verdict {tree : Except QueryError Node} {policy : Option Policy}
    {snapshot : Snapshot} (ha : AnswersInTime deadline range provider s snapshot)
    (supported : ∀ node, tree = .ok node → node.Supported) :
    ∃ v, (validate query tree policy deadline range provider s).outcome = .verdict v := by
  refine exists_verdict_of_ends supported fun _ => ?_
  rw [ha.reply]
  nofun

/-- Once a snapshot is there, safe means that all comparisons are known and
that the assessment finds nothing. -/
theorem isSafe_iff_assess {snapshot : Snapshot}
    (ha : AnswersInTime deadline range provider s snapshot) :
    (validate query (.ok node) (some policy) deadline range provider s).outcome.IsSafe ↔
      ∃ selectors, List.Forall₂ SelectorNode.ResolvesTo node.walk selectors ∧
        Assessment.assess policy query selectors snapshot = none := by
  constructor
  · rintro ⟨v, hv, hsafe⟩
    obtain ⟨selectors, hall, rfl⟩ := (outcome_eq_verdict_iff ha).1 hv
    exact ⟨selectors, hall, Verdict.safe_ofFinding?_iff.1 hsafe⟩
  · rintro ⟨selectors, hall, hnone⟩
    exact ⟨_, outcome_of_answersInTime ha hall, Verdict.safe_ofFinding?_iff.2 hnone⟩

/-- Once a snapshot is there, safe means that every selector that the tree
reaches is admissible on its own. -/
theorem isSafe_iff_forall_reaches {snapshot : Snapshot}
    (ha : AnswersInTime deadline range provider s snapshot) :
    (validate query (.ok node) (some policy) deadline range provider s).outcome.IsSafe ↔
      ∀ sn, node.Reaches sn → ∃ sel, sn.ResolvesTo sel ∧ sel.Admissible policy snapshot := by
  rw [isSafe_iff_assess ha]
  simp only [Assessment.assess_eq_none_iff, exists_forall₂_iff, Node.mem_walk]

end

/-! ### Counting calls -/

/-- A provider behind a counter of its calls. -/
def counted {σ : Type} (provider : Provider σ) : Provider (σ × Nat) :=
  fun range (s, calls) =>
    let fetched := provider range s
    ⟨fetched.reply, fetched.journal, (fetched.state, calls + 1)⟩

/-- How often a validation calls the provider. -/
def calls {σ : Type} (query : Wording) (tree : Except QueryError Node) (policy : Option Policy)
    (deadline : Option Number) (range : Option TimeRange) (provider : Provider σ) (s : σ) : Nat :=
  (validate query tree policy deadline range (counted provider) (s, 0)).state.2

section
variable {σ : Type} {query : Wording} {node : Node} {deadline : Option Number}
  {range : Option TimeRange} {provider : Provider σ} {s : σ}

end

/-! ### A sample -/

/-- The policy that asks for a label matcher. -/
def filterPolicy : Policy where
  requireLabelMatcher := true

/-- One metric and one label. -/
def upSnapshot : Snapshot := ⟨Counts.ofList [("up", 3)], Counts.ofList [("job", 1)]⟩

/-- The selector `up` with a matcher on the job. -/
def upByJob : SelectorNode := ⟨"up", [⟨"job", .name "=", "a"⟩], []⟩

/-- The selector `up` on its own. -/
def upAlone : SelectorNode := ⟨"up", [], []⟩

/-- A sum over `upByJob`. -/
def sumByJob : Node := .inner "AggregateExpr" [("expr", .selector upByJob)] []

/-- The sum keeps its operand in a usual field. -/
theorem usual_sumByJob : sumByJob.Usual := by
  refine .inner (by decide) (by decide) ?_ ?_
  · simp [Node.isExpression]
  · simp [Node.Usual.selector]

/-- It walks to its one selector. -/
theorem walk_sumByJob : sumByJob.walk = [upByJob] := by
  rw [Node.walk_of_children_eq_singleton rfl, Node.walk_selector]

/-- The filtered selector uses known operators only. -/
theorem supported_upByJob : upByJob.Supported := by
  intro m hm
  cases List.mem_singleton.1 hm
  exact ⟨.equal, rfl⟩

/-- The bare selector has no matcher at all. -/
theorem supported_upAlone : upAlone.Supported := fun _ hm => absurd hm List.not_mem_nil

/-- The bare selector resolves to its name alone. -/
theorem resolves_upAlone :
    List.Forall₂ SelectorNode.ResolvesTo (Node.selector upAlone).walk [⟨"up", []⟩] := by
  rw [Node.walk_selector]
  exact .cons rfl .nil

/-- Support is a property of the selectors, so the sum has it from its operand. -/
theorem supported_sumByJob : sumByJob.Supported := by
  refine Node.supported_inner_iff.2 fun c hc => ?_
  cases List.mem_singleton.1 hc
  exact Node.supported_selector_iff.2 supported_upByJob

end Validation

end QueryGuard
