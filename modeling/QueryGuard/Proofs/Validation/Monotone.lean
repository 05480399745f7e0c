import QueryGuard.Proofs.Validation.Run

/-!
# `QueryGuard.Proofs.Validation.Monotone`: asking for less keeps a safe query safe

A safe query stays safe when the policy asks for less and when the backend
holds less (`isSafe_of_relaxes`). The two notions of "less" have to follow
how a check reads its numbers:

* `Policy.Relaxes`: a metric limit of zero is no limit, so it is the weakest;
  a label limit of zero refuses every blanket pattern, so it is the
  strictest.
* `Snapshot.Cheaper`: the names stay, since a name without a count has not
  been observed. And no count of series falls to zero, since a metric without
  series does not exist.

The proof takes the conditions on one selector one by one (`MetricsExist.mono`
and so on) and puts them together in `Admissible.mono`. The selectors of a
query do not depend on the policy or on the snapshot.
-/

set_option autoImplicit false

namespace QueryGuard

/-! ### Weaker policies -/

/-- A policy asks for no more than another: it has no other rules on, and
neither of its limits is stricter. -/
structure Policy.Relaxes (relaxed policy : Policy) : Prop where
  rules : ∀ rule, relaxed.enables rule = true → policy.enables rule = true
  metricLimit : relaxed.maxMetricCardinality = 0 ∨
    policy.maxMetricCardinality ≠ 0 ∧
      policy.maxMetricCardinality ≤ relaxed.maxMetricCardinality
  labelLimit : policy.maxLabelCardinality ≤ relaxed.maxLabelCardinality

/-- A limit on metrics that is in force was in force before, and no looser. -/
theorem Policy.Relaxes.metricLimit_of_pos {relaxed policy : Policy}
    (h : relaxed.Relaxes policy) (hpos : 0 < relaxed.maxMetricCardinality) :
    0 < policy.maxMetricCardinality ∧
      policy.maxMetricCardinality ≤ relaxed.maxMetricCardinality := by
  rcases h.metricLimit with hzero | ⟨hne, hle⟩
  · omega
  · exact ⟨Nat.pos_of_ne_zero hne, hle⟩

/-! ### Smaller counts -/

namespace Counts

/-- Two tables have the same names, and no count of the first is above that
of the second. -/
def AtMost (counts other : Counts) : Prop :=
  ∀ name, Option.Rel (· ≤ ·) (counts.get? name) (other.get? name)

variable {counts other : Counts} {name : Wording} {count : Int}

/-- A map of counts is at most itself. -/
theorem AtMost.refl (counts : Counts) : counts.AtMost counts := by
  intro name
  cases counts.get? name with
  | none => exact .none
  | some count => exact .some (Int.le_refl count)

/-- A name the larger map counts is counted by the smaller one too, and no higher. -/
theorem AtMost.exists_le (h : counts.AtMost other) (hcount : other.get? name = some count) :
    ∃ smaller, counts.get? name = some smaller ∧ smaller ≤ count := by
  have hrel := h name
  rw [hcount] at hrel
  generalize counts.get? name = found at hrel ⊢
  cases hrel with
  | some hle => exact ⟨_, rfl, hle⟩

/-- A name the smaller map counts is counted by the larger one too, and no lower. -/
theorem AtMost.exists_ge (h : counts.AtMost other) (hcount : counts.get? name = some count) :
    ∃ larger, other.get? name = some larger ∧ count ≤ larger := by
  have hrel := h name
  rw [hcount] at hrel
  generalize other.get? name = found at hrel ⊢
  cases hrel with
  | some hle => exact ⟨_, rfl, hle⟩

/-- Entries that pair up by name with counts in order give lookups in order. -/
theorem rel_lookup_of_forall₂ {entries others : List (Wording × Int)}
    (h : List.Forall₂ (fun a b => a.1 = b.1 ∧ a.2 ≤ b.2) entries others) :
    Option.Rel (· ≤ ·) (entries.lookup name) (others.lookup name) := by
  induction h with
  | nil => exact .none
  | @cons a b _ _ hab _ ih =>
    obtain ⟨hname, hle⟩ := hab
    rw [List.lookup_cons, List.lookup_cons, ← hname]
    cases name == a.1 with
    | true => exact .some hle
    | false => exact ih

/-- Tables can be compared entry by entry, since both are in the order of the
names. -/
theorem atMost_of_forall₂
    (h : List.Forall₂ (fun a b => a.1 = b.1 ∧ a.2 ≤ b.2) counts.entries other.entries) :
    counts.AtMost other := by
  intro name
  exact rel_lookup_of_forall₂ h

end Counts

/-- A snapshot is no costlier than another: the same names, no larger counts,
and no metric has lost its last series. -/
structure Snapshot.Cheaper (cheaper snapshot : Snapshot) : Prop where
  series : cheaper.series.AtMost snapshot.series
  labels : cheaper.labels.AtMost snapshot.labels
  keepsSeries : ∀ metric, cheaper.series.get? metric = some 0 →
    snapshot.series.get? metric = some 0

namespace Snapshot.Cheaper

variable {cheaper snapshot : Snapshot}

/-- A snapshot is no dearer than itself. -/
theorem refl (snapshot : Snapshot) : snapshot.Cheaper snapshot :=
  ⟨.refl _, .refl _, fun _ h => h⟩

/-- A cheaper snapshot still has the metrics of the dearer one. -/
theorem hasSeries {metric : String} (h : cheaper.Cheaper snapshot)
    (hm : snapshot.HasSeries metric) : cheaper.HasSeries metric := by
  obtain ⟨count, hcount, hne⟩ := hm
  obtain ⟨smaller, hsmaller, -⟩ := h.series.exists_le hcount
  refine ⟨smaller, hsmaller, ?_⟩
  -- A smaller count could be zero, were it not for `keepsSeries`.
  rintro rfl
  have hzero := h.keepsSeries metric hsmaller
  exact hne (Option.some.inj (hcount.symm.trans hzero))

/-- A cheaper snapshot still has the labels of the dearer one. -/
theorem hasLabel {label : String} (h : cheaper.Cheaper snapshot) (hl : snapshot.HasLabel label) :
    cheaper.HasLabel label := by
  obtain ⟨count, hcount⟩ := hl
  obtain ⟨smaller, hsmaller, -⟩ := h.labels.exists_le hcount
  exact ⟨smaller, hsmaller⟩

end Snapshot.Cheaper

/-! ### One selector -/

namespace Selector

variable {s : Selector} {policy relaxed : Policy} {snapshot cheaper : Snapshot}

/-- Metrics that exist still exist in a cheaper snapshot. -/
theorem MetricsExist.mono (hs : cheaper.Cheaper snapshot) (h : s.MetricsExist snapshot) :
    s.MetricsExist cheaper := by
  intro metric hrefers
  exact hs.hasSeries (h metric hrefers)

/-- Labels that exist still exist in a cheaper snapshot. -/
theorem LabelsExist.mono (hs : cheaper.Cheaper snapshot) (h : s.LabelsExist snapshot) :
    s.LabelsExist cheaper := by
  intro label hmatches
  exact hs.hasLabel (h label hmatches)

/-- A selector fit for the strict policy is fit for a relaxed one, whatever the snapshot. -/
theorem WellFormed.mono (hp : relaxed.Relaxes policy) (h : s.WellFormed policy) :
    s.WellFormed relaxed := by
  obtain ⟨hnamed, hfiltered⟩ := h
  constructor
  · intro hon
    exact hnamed (hp.rules .disallowExplicitNameLabel hon)
  · intro hon
    exact hfiltered (hp.rules .requireLabelMatcher hon)

/-- A metric within the strict limit, at its higher count, is within the relaxed one at its
lower count. -/
theorem MetricsFit.mono (hp : relaxed.Relaxes policy) (hs : cheaper.Cheaper snapshot)
    (h : s.MetricsFit policy snapshot) : s.MetricsFit relaxed cheaper := by
  intro hpos metric count hrefers hcount
  -- Zero is no limit, so a limit in force needs one that was in force before.
  obtain ⟨hbefore, hlimit⟩ := hp.metricLimit_of_pos hpos
  obtain ⟨larger, hlarger, hle⟩ := hs.series.exists_ge hcount
  have hfits := h hbefore metric larger hrefers hlarger
  omega

/-- A blanket regex over few enough values stays allowed when the limit rises and the values
thin out. -/
theorem BlanketsFit.mono (hp : relaxed.Relaxes policy) (hs : cheaper.Cheaper snapshot)
    (h : s.BlanketsFit policy snapshot) : s.BlanketsFit relaxed cheaper := by
  intro hon label hblankets
  -- The stricter limit let this pattern pass, so it is not zero, nor is the looser one.
  obtain ⟨hpos, hfits⟩ := h (hp.rules .disallowBlanketRegex hon) label hblankets
  have hlimit := hp.labelLimit
  refine ⟨by omega, fun count hcount => ?_⟩
  obtain ⟨larger, hlarger, hle⟩ := hs.labels.exists_ge hcount
  have hfit := hfits larger hlarger
  omega

/-- An admissible selector stays admissible when less is asked of it. -/
theorem Admissible.mono (hp : relaxed.Relaxes policy) (hs : cheaper.Cheaper snapshot)
    (h : s.Admissible policy snapshot) : s.Admissible relaxed cheaper where
  metricsExist := h.metricsExist.mono hs
  labelsExist := h.labelsExist.mono hs
  wellFormed := h.wellFormed.mono hp
  metricsFit := h.metricsFit.mono hp hs
  blanketsFit := h.blanketsFit.mono hp hs

end Selector

/-! ### Whole queries -/

namespace Validation

/-- A safe query stays safe under a policy that asks for no more and with a
snapshot that is no costlier. The two runs need not share anything but the
query: neither deadline nor range nor provider. -/
theorem isSafe_of_relaxes {σ σ' : Type} {query : Wording} {node : Node} {policy relaxed : Policy}
    {deadline deadline' : Option Number} {range range' : Option TimeRange}
    {provider : Provider σ} {provider' : Provider σ'} {s : σ} {s' : σ'}
    {snapshot cheaper : Snapshot}
    (ha : AnswersInTime deadline range provider s snapshot)
    (ha' : AnswersInTime deadline' range' provider' s' cheaper)
    (hp : relaxed.Relaxes policy) (hs : cheaper.Cheaper snapshot)
    (hsafe : (validate query (.ok node) (some policy) deadline range provider s).outcome.IsSafe) :
    (validate query (.ok node) (some relaxed) deadline' range' provider' s').outcome.IsSafe := by
  rw [isSafe_iff_forall_reaches ha] at hsafe
  rw [isSafe_iff_forall_reaches ha']
  intro sn hsn
  obtain ⟨sel, hsel, hadmissible⟩ := hsafe sn hsn
  exact ⟨sel, hsel, hadmissible.mono hp hs⟩

/-- A selector with a blanket pattern, for a query `sum(up{…})`. -/
def sumByAnyJob : Node :=
  .inner "AggregateExpr" [("expr", .selector ⟨"up", [⟨"job", .name "=~", ".*"⟩], []⟩)] []

/-- One rule less than the standard policy, no limit on metrics, and a looser
one on labels. -/
def lenientPolicy : Policy where
  requireLabelMatcher := true
  disallowBlanketRegex := true
  maxLabelCardinality := 1000

/-- Counts that the standard policy just admits. -/
def fullSnapshot : Snapshot :=
  ⟨Counts.ofList [("up", 20000)], Counts.ofList [("job", 500)]⟩

/-- The lenient policy asks for less than the standard one at every rule. -/
theorem lenientPolicy_relaxes : lenientPolicy.Relaxes .standard where
  rules := by
    intro rule hon
    cases rule <;> rfl
  metricLimit := .inl rfl
  labelLimit := by decide

/-- The small snapshot counts the same names as the full one, each no higher. -/
theorem upSnapshot_cheaper : upSnapshot.Cheaper fullSnapshot where
  series := Counts.atMost_of_forall₂ (.cons ⟨rfl, by decide⟩ .nil)
  labels := Counts.atMost_of_forall₂ (.cons ⟨rfl, by decide⟩ .nil)
  keepsSeries := by
    intro metric h
    have h : List.lookup metric [("up", (3 : Int))] = some 0 := h
    rw [List.lookup_cons] at h
    split at h <;> cases h

/-- The blanket regex passes the standard policy on the full snapshot. -/
theorem isSafe_sumByAnyJob_standard :
    (validate "sum(up\x7bjob=~\".*\"\x7d)" (.ok sumByAnyJob) (some .standard) none none
      (fixedProvider fullSnapshot) 0).outcome.IsSafe := by
  rw [isSafe_iff_assess (answersInTime_fixedProvider fullSnapshot), sumByAnyJob,
    Node.walk_of_children_eq_singleton rfl, Node.walk_selector]
  exact ⟨[⟨"up", [⟨"job", .regex, ".*"⟩]⟩], .cons rfl .nil, by decide⟩

/-- A query at both limits of the standard policy is safe under the lenient
one, with fewer series and fewer values. -/
theorem isSafe_sumByAnyJob_lenient :
    AnswersInTime none none (fixedProvider fullSnapshot) 0 fullSnapshot ∧
    AnswersInTime none none (fixedProvider upSnapshot) 0 upSnapshot ∧
    lenientPolicy.Relaxes .standard ∧ upSnapshot.Cheaper fullSnapshot ∧
    (validate "sum(up\x7bjob=~\".*\"\x7d)" (.ok sumByAnyJob) (some .standard) none none
      (fixedProvider fullSnapshot) 0).outcome.IsSafe ∧
    (validate "sum(up\x7bjob=~\".*\"\x7d)" (.ok sumByAnyJob) (some lenientPolicy) none none
      (fixedProvider upSnapshot) 0).outcome.IsSafe := by
  have ha := answersInTime_fixedProvider fullSnapshot
  have ha' := answersInTime_fixedProvider upSnapshot
  have hp := lenientPolicy_relaxes
  have hs := upSnapshot_cheaper
  have hsafe := isSafe_sumByAnyJob_standard
  exact ⟨ha, ha', hp, hs, hsafe, isSafe_of_relaxes ha ha' hp hs hsafe⟩

end Validation

end QueryGuard
