import Mathlib.Data.List.MinMax
import QueryGuard.Proofs.Assessment.Blame

/-!
# `QueryGuard.Proofs.Assessment.Stage`: the rule of a query from the rules of its parts

An assessment pools the names of all selectors and stops at the first rule
that is broken. Its rule can be had without the pool: assess every part of
the query alone and take the rule of the earliest stage, the leftmost if
there are several.

* `foundRule_append`: the statement for two rows of selectors.
* `earliest_cons`: choosing among several rules, one after the other.
* `map_rule_assess`: the text of the query plays no part in it.

The proof goes stage by stage. At each stage a row breaks a rule when one of
its parts does, and it is the leftmost such part that gives the rule
(`tiers_append`). `meet_firstOf` then compares two rows of stages.
-/

set_option autoImplicit false

namespace QueryGuard

/-! ### Stages -/

/-- When a rule is looked at. Stage zero comes before any assessment. -/
def Rule.stage : Rule → Nat
  | .syntaxError | .metadataUnavailable => 0
  | .metricNotFound => 1
  | .labelNotFound => 2
  | .explicitNameLabel | .missingLabelMatcher => 3
  | .metricCardinalityExceeded => 4
  | .blanketRegexDisallowed | .labelCardinalityExceeded => 5

namespace Assessment

/-- The stage at which a query is rejected, the last one for a safe query. -/
def stageOf : Option Rule → Nat
  | some r => r.stage
  | none => 6

/-- The rule of the earliest stage, the leftmost of several; no rule if there
is nothing to choose from. -/
def earliest (rules : List (Option Rule)) : Option Rule := (rules.argmin stageOf).getD none

/-- The earlier of two rules, the left one if neither is. -/
def meet (a b : Option Rule) : Option Rule := if stageOf b < stageOf a then b else a

/-- A rejection comes before the end. -/
theorem stageOf_lt_of_some (r : Rule) : stageOf (some r) < stageOf none := by
  cases r <;> decide

/-- Nothing comes after the end. -/
theorem stageOf_le (a : Option Rule) : stageOf a ≤ stageOf none := by
  cases a with
  | none => exact Nat.le_refl _
  | some r => exact Nat.le_of_lt (stageOf_lt_of_some r)

/-- No rule is the last choice. -/
theorem meet_none_right (a : Option Rule) : meet a none = a :=
  if_neg (Nat.not_lt.2 (stageOf_le a))

/-- There is no rule to choose if there is none on either side. -/
theorem meet_eq_none_iff {a b : Option Rule} : meet a b = none ↔ a = none ∧ b = none := by
  unfold meet
  cases a with
  | none =>
    cases b with
    | none => simp
    | some r => simp [stageOf_lt_of_some]
  | some r =>
    cases b with
    | none => simp [Nat.not_lt.2 (stageOf_le (some r))]
    | some t => split <;> simp

/-- There is nothing to choose from. -/
@[simp] theorem earliest_nil : earliest [] = none := rfl

/-- Several rules are chosen from one after the other. -/
theorem earliest_cons (a : Option Rule) (rules : List (Option Rule)) :
    earliest (a :: rules) = meet a (earliest rules) := by
  unfold earliest
  rw [List.argmin_cons]
  cases rules.argmin stageOf with
  | none => exact (meet_none_right a).symm
  | some b =>
    show (if stageOf b < stageOf a then some b else some a).getD none = meet a b
    unfold meet
    split <;> rfl

/-! ### Rows of stages -/

/-- The first rule in a row. -/
def firstOf (tiers : List (Option Rule)) : Option Rule := tiers.foldr Option.or none

/-- A row has the rules of one stage after the other, from a stage on. -/
inductive Tiered : Nat → List (Option Rule) → Prop where
  | nil {i : Nat} (h : i ≤ stageOf none) : Tiered i []
  | cons {i : Nat} {a : Option Rule} {rest : List (Option Rule)}
    (here : ∀ r, a = some r → r.stage = i) (later : Tiered (i + 1) rest) : Tiered i (a :: rest)

/-- The first rule of a row is of its first stage or a later one. -/
theorem Tiered.le_stageOf_firstOf {i : Nat} {tiers : List (Option Rule)} (h : Tiered i tiers) :
    i ≤ stageOf (firstOf tiers) := by
  induction h with
  | nil h => exact h
  | @cons i a rest here later ih =>
    cases a with
    | none => exact Nat.le_of_succ_le ih
    | some r => exact Nat.le_of_eq (here r rfl).symm

/-- Of two rows, stage by stage: the earlier of their first rules is the
first rule of the row that takes each stage from the left where it can. -/
theorem meet_firstOf {i : Nat} {left right : List (Option Rule)} (hl : Tiered i left)
    (hr : Tiered i right) (hlen : left.length = right.length) :
    meet (firstOf left) (firstOf right) = firstOf (List.zipWith Option.or left right) := by
  induction hl generalizing right with
  | nil h =>
    cases List.length_eq_zero_iff.1 hlen.symm
    rfl
  | @cons i a rest here later ih =>
    cases hr with
    | nil h => cases hlen
    | @cons _ b rest' here' later' =>
      have ih := ih later' (Nat.succ.inj hlen)
      cases a with
      | none =>
        cases b with
        | none => exact ih
        | some t =>
          -- The left row goes on with a later stage.
          have hlate := later.le_stageOf_firstOf
          have ht := here' t rfl
          exact if_pos (show t.stage < stageOf (firstOf rest) by omega)
      | some r =>
        -- The right row has nothing earlier, and in a tie the left one counts.
        have hlate := (Tiered.cons here' later').le_stageOf_firstOf
        have hr := here r rfl
        exact if_neg (show ¬ stageOf (firstOf (b :: rest')) < r.stage by omega)

/-! ### One stage over two rows of selectors -/

/-- A rule that a check looks for in all selectors at once, and breaks as
soon as one of them does not pass. -/
structure Breaks (check : List Selector → Option Finding) (rule : Rule)
    (Passes : Selector → Prop) : Prop where
  none_iff : ∀ {selectors}, check selectors = none ↔ ∀ s ∈ selectors, Passes s
  rule_eq : ∀ {selectors f}, check selectors = some f → f.rule = rule

/-- Two rows of selectors break a rule when one of them does. The texts in
the messages may differ from check to check. -/
theorem Breaks.map_rule_append {check left right : List Selector → Option Finding} {rule : Rule}
    {Passes : Selector → Prop} (h : Breaks check rule Passes) (hl : Breaks left rule Passes)
    (hr : Breaks right rule Passes) (xs ys : List Selector) :
    (check (xs ++ ys)).map Finding.rule =
      ((left xs).map Finding.rule).or ((right ys).map Finding.rule) := by
  have hnone : check (xs ++ ys) = none ↔ left xs = none ∧ right ys = none := by
    rw [h.none_iff, hl.none_iff, hr.none_iff, List.forall_mem_append]
  -- All findings of these checks have one rule, so only who finds something matters.
  cases hx : left xs with
  | none =>
    cases hy : right ys with
    | none => rw [hnone.2 ⟨hx, hy⟩]; rfl
    | some g =>
      obtain ⟨f, hf⟩ := Option.ne_none_iff_exists'.1 fun h => by
        cases hy.symm.trans (hnone.1 h).2
      rw [hf, Option.map_some, h.rule_eq hf, Option.map_some, hr.rule_eq hy]
      rfl
  | some g =>
    obtain ⟨f, hf⟩ := Option.ne_none_iff_exists'.1 fun h => by
      cases hx.symm.trans (hnone.1 h).1
    rw [hf, Option.map_some, h.rule_eq hf, Option.map_some, hl.rule_eq hx]
    rfl

/-! ### The stages of an assessment -/

section
variable {policy : Policy} {snapshot : Snapshot}

/-- A row misses a metric if one of its selectors does. -/
theorem breaks_missingMetric? :
    Breaks (fun xs => missingMetric? (metricNames xs) snapshot) .metricNotFound
      (·.MetricsExist snapshot) where
  none_iff := missingMetric?_eq_none_iff
  rule_eq h := by
    obtain ⟨metric, least, rfl⟩ := missingMetric?_eq_some_iff.1 h
    rfl

/-- A row misses a label if one of its selectors does. -/
theorem breaks_missingLabel? (query : Wording) :
    Breaks (fun xs => missingLabel? (labelNames xs) snapshot query) .labelNotFound
      (·.LabelsExist snapshot) where
  none_iff := missingLabel?_eq_none_iff
  rule_eq h := by
    obtain ⟨label, least, rfl⟩ := missingLabel?_eq_some_iff.1 h
    rfl

/-- A row has a metric above the limit if one of its selectors does. -/
theorem breaks_oversizedMetric? :
    Breaks (fun xs => oversizedMetric? (metricNames xs) snapshot policy)
      .metricCardinalityExceeded (·.MetricsFit policy snapshot) where
  none_iff := oversizedMetric?_eq_none_iff
  rule_eq h := by
    obtain ⟨enabled, metric, count, least, exact, rfl⟩ := oversizedMetric?_eq_some_iff.1 h
    rfl

/-- The policy alone decides which of the two rules on blanket patterns can
be broken. -/
theorem breaks_blanketLabel? (query : Wording) :
    Breaks (fun xs => blanketLabel? (blanketLabelNames xs) snapshot policy query)
      (if policy.maxLabelCardinality = 0 then .blanketRegexDisallowed
        else .labelCardinalityExceeded) (·.BlanketsFit policy snapshot) where
  none_iff := blanketLabel?_eq_none_iff
  rule_eq h := by
    obtain ⟨enabled, ⟨always, label, least, rfl⟩ | ⟨limited, label, count, least, exact, rfl⟩⟩ :=
      blanketLabel?_eq_some_iff.1 h
    · rw [if_pos always]
      rfl
    · rw [if_neg (Nat.pos_iff_ne_zero.1 limited)]
      rfl

/-- The rule for a selector does not depend on the text of the query. -/
theorem map_rule_malformed? (query other : Wording) (s : Selector) :
    (malformed? policy query s).map Finding.rule =
      (malformed? policy other s).map Finding.rule := by
  unfold malformed?
  split
  · rfl
  · split <;> rfl

/-- The rule on the form of selectors: the first malformed one of the left
row comes before that of the right. -/
theorem map_rule_malformedSelector?_append (query left right : Wording) (xs ys : List Selector) :
    (malformedSelector? policy query (xs ++ ys)).map Finding.rule =
      ((malformedSelector? policy left xs).map Finding.rule).or
        ((malformedSelector? policy right ys).map Finding.rule) := by
  simp only [malformedSelector?, List.findSome?_append, Option.map_or, List.map_findSome?]
  congr 2
  · funext s
    exact map_rule_malformed? query left s
  · funext s
    exact map_rule_malformed? query right s

/-- The rules that selectors break, stage by stage. -/
def tiers (policy : Policy) (query : Wording) (snapshot : Snapshot) (selectors : List Selector) :
    List (Option Rule) :=
  [(missingMetric? (metricNames selectors) snapshot).map Finding.rule,
    (missingLabel? (labelNames selectors) snapshot query).map Finding.rule,
    (malformedSelector? policy query selectors).map Finding.rule,
    (oversizedMetric? (metricNames selectors) snapshot policy).map Finding.rule,
    (blanketLabel? (blanketLabelNames selectors) snapshot policy query).map Finding.rule]

/-- The rule of an assessment is that of the first stage that breaks one. -/
theorem map_rule_assess_eq_firstOf {query : Wording} {selectors : List Selector} :
    (assess policy query selectors snapshot).map Finding.rule =
      firstOf (tiers policy query snapshot selectors) := by
  rw [assess_eq_or]
  simp only [Option.map_or, tiers, firstOf, List.foldr_cons, List.foldr_nil, Option.or_none]

/-- The checks of an assessment are a row of stages. -/
theorem tiered_tiers {query : Wording} {selectors : List Selector} :
    Tiered 1 (tiers policy query snapshot selectors) := by
  -- Five checks in the order in which they run, each with rules of its own stage only.
  refine .cons ?_ (.cons ?_ (.cons ?_ (.cons ?_ (.cons ?_ (.nil (Nat.le_refl _))))))
  all_goals
    intro r h
    obtain ⟨f, hf, rfl⟩ := Option.map_eq_some_iff.1 h
  · rw [breaks_missingMetric?.rule_eq hf]; rfl
  · rw [(breaks_missingLabel? query).rule_eq hf]; rfl
  · obtain ⟨-, s, -, -, -, hs⟩ := malformedSelector?_eq_some_iff.1 hf
    rcases malformed?_eq_some_iff.1 hs with ⟨-, -, rfl⟩ | ⟨-, -, -, rfl⟩
    · rfl
    · rfl
  · rw [breaks_oversizedMetric?.rule_eq hf]; rfl
  · rw [(breaks_blanketLabel? query).rule_eq hf]
    split <;> rfl

/-- Of two rows taken together each stage is that of the left one, or else of the right one. -/
theorem tiers_append (query left right : Wording) (xs ys : List Selector) :
    tiers policy query snapshot (xs ++ ys) =
      List.zipWith Option.or (tiers policy left snapshot xs) (tiers policy right snapshot ys) := by
  simp only [tiers, List.zipWith_cons_cons, List.zipWith_nil_left]
  rw [breaks_missingMetric?.map_rule_append breaks_missingMetric? breaks_missingMetric?,
    (breaks_missingLabel? query).map_rule_append (breaks_missingLabel? left)
      (breaks_missingLabel? right),
    map_rule_malformedSelector?_append query left right,
    breaks_oversizedMetric?.map_rule_append breaks_oversizedMetric? breaks_oversizedMetric?,
    (breaks_blanketLabel? query).map_rule_append (breaks_blanketLabel? left)
      (breaks_blanketLabel? right)]

/-- The rule of two rows of selectors. -/
theorem map_rule_assess_append (query left right : Wording) (xs ys : List Selector) :
    (assess policy query (xs ++ ys) snapshot).map Finding.rule =
      meet ((assess policy left xs snapshot).map Finding.rule)
        ((assess policy right ys snapshot).map Finding.rule) := by
  simp only [map_rule_assess_eq_firstOf]
  have hlen : (tiers policy left snapshot xs).length =
      (tiers policy right snapshot ys).length := rfl
  rw [tiers_append query left right, meet_firstOf tiered_tiers tiered_tiers hlen]

/-- The rule that selectors break. -/
def foundRule (policy : Policy) (snapshot : Snapshot) (selectors : List Selector) :
    Option Rule :=
  (assess policy "" selectors snapshot).map Finding.rule

/-- Without selectors no rule is broken. -/
theorem foundRule_nil : foundRule policy snapshot [] = none := by
  rw [foundRule, assess_eq_none_iff.2 (by simp), Option.map_none]

/-- The text of a query is for messages only: the rule does not depend on
it. -/
theorem map_rule_assess (query : Wording) (selectors : List Selector) :
    (assess policy query selectors snapshot).map Finding.rule =
      foundRule policy snapshot selectors := by
  have h : (assess policy query (selectors ++ []) snapshot).map Finding.rule =
      meet (foundRule policy snapshot selectors) (foundRule policy snapshot []) :=
    map_rule_assess_append query "" "" selectors []
  rwa [List.append_nil, foundRule_nil, meet_none_right] at h

/-- The rule of two rows taken together is the earlier of their rules. -/
theorem foundRule_append (xs ys : List Selector) :
    foundRule policy snapshot (xs ++ ys) =
      meet (foundRule policy snapshot xs) (foundRule policy snapshot ys) :=
  map_rule_assess_append "" "" "" xs ys

end

end Assessment

end QueryGuard
