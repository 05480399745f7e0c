import QueryGuard.Proofs.Validation.Run

/-!
# `QueryGuard.Proofs.Validation.Soundness`: what a safe verdict means

`isSafe_iff_admissible` is the meaning of a safe verdict under a policy,
given a snapshot: every selector of the query is `Selector.Admissible` on
its own. It is an equivalence, so neither a selector that should have been
refused passes nor a query is refused for another reason.

"Every selector" is every selector that the children reach. For a tree that
hides none, which holds of all trees of the usual shape
(`Node.Usual.transparent`), it is every selector at any depth. A node that
has a child in a usual field is not searched in its other fields, and
`isSafe_histogramFraction` is a query with an inadmissible selector there
that passes.
-/

set_option autoImplicit false

namespace QueryGuard.Validation

/-- A function of histograms over `upByJob`, with `upAlone` in a field that
is not a usual one. -/
def histogramFraction : Node :=
  .inner "HistogramExpr" [("expr", .selector upByJob), ("bounds", .selector upAlone)] []

/-- The walk of the histogram fraction reaches the selector of its known attribute and stops
there. -/
theorem walk_histogramFraction : histogramFraction.walk = [upByJob] := by
  rw [Node.walk_of_children_eq_singleton rfl, Node.walk_selector]

/-- The filtered selector is admissible on its own. -/
theorem admissible_upByJob :
    ∃ sel, upByJob.ResolvesTo sel ∧ sel.Admissible filterPolicy upSnapshot :=
  ⟨⟨"up", [⟨"job", .equal, "a"⟩]⟩, rfl, by decide⟩

/-- The bare selector is not: it lacks a label matcher. -/
theorem not_admissible_upAlone :
    ¬ ∃ sel, upAlone.ResolvesTo sel ∧ sel.Admissible filterPolicy upSnapshot := by
  rintro ⟨sel, hsel, hadm⟩
  cases (show Except.ok ⟨"up", []⟩ = Except.ok sel from hsel)
  exact absurd hadm (by decide)

/-- Given a snapshot in time, a query is safe exactly when each selector that
its tree reaches is admissible. In a tree without hidden selectors these are
all selectors at any depth. -/
theorem isSafe_iff_admissible {σ : Type} {query : Wording} {node : Node} {policy : Policy}
    {deadline : Option Number} {range : Option TimeRange} {provider : Provider σ} {s : σ}
    {snapshot : Snapshot} (h : AnswersInTime deadline range provider s snapshot) :
    let run := validate query (.ok node) (some policy) deadline range provider s
    (run.outcome.IsSafe ↔
      ∀ sn, node.Reaches sn → ∃ sel, sn.ResolvesTo sel ∧ sel.Admissible policy snapshot) ∧
    (node.Transparent →
      (run.outcome.IsSafe ↔
        ∀ sn, node.Occurs sn → ∃ sel, sn.ResolvesTo sel ∧ sel.Admissible policy snapshot)) := by
  intro run
  have hreaches : run.outcome.IsSafe ↔
      ∀ sn, node.Reaches sn → ∃ sel, sn.ResolvesTo sel ∧ sel.Admissible policy snapshot :=
    isSafe_iff_forall_reaches h
  refine ⟨hreaches, fun hn => ?_⟩
  rw [hreaches]
  simp only [Node.occurs_iff_reaches hn]

/-- A sum over a selector with a matcher on a label is safe, and every
selector in it is admissible. -/
theorem isSafe_sumByJob :
    AnswersInTime none none (fixedProvider upSnapshot) 0 upSnapshot ∧ sumByJob.Transparent ∧
    (validate "sum(up\x7bjob=\"a\"\x7d)" (.ok sumByJob) (some filterPolicy) none none
      (fixedProvider upSnapshot) 0).outcome.IsSafe ∧
    ∀ sn, sumByJob.Occurs sn →
      ∃ sel, sn.ResolvesTo sel ∧ sel.Admissible filterPolicy upSnapshot := by
  have ha := answersInTime_fixedProvider upSnapshot
  have hshown := usual_sumByJob.transparent
  obtain ⟨hreaches, hoccurs⟩ := isSafe_iff_admissible ha
  have hsafe := hreaches.2 fun sn hsn => by
    rw [← Node.mem_walk, walk_sumByJob, List.mem_singleton] at hsn
    subst hsn
    exact admissible_upByJob
  exact ⟨ha, hshown, hsafe, (hoccurs hshown).1 hsafe⟩

/-- A query is safe although a selector that occurs in it is not admissible:
it stands in a field where no one looks, next to a child in a usual field. -/
theorem isSafe_histogramFraction :
    AnswersInTime none none (fixedProvider upSnapshot) 0 upSnapshot ∧
    (validate "histogram_fraction(up\x7bjob=\"a\"\x7d, up)" (.ok histogramFraction)
      (some filterPolicy) none none (fixedProvider upSnapshot) 0).outcome.IsSafe ∧
    histogramFraction.Occurs upAlone ∧
    ¬ ∃ sel, upAlone.ResolvesTo sel ∧ sel.Admissible filterPolicy upSnapshot := by
  refine ⟨answersInTime_fixedProvider upSnapshot, ?_, ?_, not_admissible_upAlone⟩
  · rw [isSafe_iff_assess (answersInTime_fixedProvider upSnapshot), walk_histogramFraction]
    exact ⟨[⟨"up", [⟨"job", .equal, "a"⟩]⟩], .cons rfl .nil, by decide⟩
  · exact .part (by simp [histogramFraction, Node.parts]) .here

end QueryGuard.Validation
