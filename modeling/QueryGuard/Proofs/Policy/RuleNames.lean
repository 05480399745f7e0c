import QueryGuard.Proofs.Policy.RuleList
import QueryGuard.Proofs.Text.Case
import QueryGuard.Proofs.Text.Split
import QueryGuard.Settings.Basic

/-!
# `QueryGuard.Proofs.Policy.RuleNames`: the language of rule lists

A rule list is `none` or nothing, or `all`, or a row of names between commas
(`RuleList.Enumerates`). A row of names gives the policy that has on just the rules that
are named, or is refused for the first name that no rule has (`RuleList.Outcome`).

What is read is the list in lower case, and lower case is not found letter by letter: a
capital sigma looks at its neighbours, and some letters beyond ASCII become letters of
ASCII. For a list of rules this makes no difference. No rule has a small sigma in its
name, so a list of rules has no capital one (`RuleList.ListsRules.sigma_not_mem`), and
without sigmas each name is mapped for itself (`RuleList.enumerates_of_pieces`).

Two lists that have the same names, up to blanks and the case of ASCII, in any order and
any number of times, are therefore read as the same policy (`RuleList.Rearranges`), and a
policy that was read can be written as a list of its rules. `RuleList.parse_language` puts
this together, up to the policies that settings lead to.
-/

set_option autoImplicit false

namespace QueryGuard

namespace PolicyRule

/-- A name that a rule has. -/
def IsName (name : String) : Prop := ∃ r : PolicyRule, r.name = name

end PolicyRule

namespace Policy

/-- The policy has on the rules of a row of names, and sets no limits. -/
structure Switches (p : Policy) (names : List String) : Prop where
  enables_iff : ∀ r, p.enables r = true ↔ r.name ∈ names
  noMetricLimit : p.maxMetricCardinality = 0
  noLabelLimit : p.maxLabelCardinality = 0

/-- Names say all there is about a policy that sets no limits. -/
theorem Switches.unique {p q : Policy} {names others : List String} (hp : p.Switches names)
    (hq : q.Switches others) (h : ∀ r : PolicyRule, r.name ∈ names ↔ r.name ∈ others) : p = q := by
  have hrule (r : PolicyRule) : p.enables r = q.enables r := by
    rw [Bool.eq_iff_iff, hp.enables_iff, hq.enables_iff, h]
  cases p
  cases q
  congr 1
  · exact hrule .disallowExplicitNameLabel
  · exact hrule .requireLabelMatcher
  · exact hrule .disallowBlanketRegex
  · exact hp.noMetricLimit.trans hq.noMetricLimit.symm
  · exact hp.noLabelLimit.trans hq.noLabelLimit.symm

end Policy

namespace RuleList

/-! ### Rows of names -/

/-- What comes of a row of names. -/
inductive Outcome (names : List String) : Except PolicyError (Option Policy) → Prop
  /-- All of them name rules. -/
  | read {p : Policy} (known : ∀ name ∈ names, PolicyRule.IsName name)
      (switches : p.Switches names) : Outcome names (.ok (some p))
  /-- One does not, and it is the first. -/
  | refused {before after : List String} {name : String} (split : names = before ++ name :: after)
      (known : ∀ earlier ∈ before, PolicyRule.IsName earlier)
      (unknown : ¬ PolicyRule.IsName name) : Outcome names (.error (.unknownRule name))

/-- Two pieces are one name, up to the blanks around it and the case of ASCII. -/
def SameName (piece other : List Char) : Prop :=
  (Text.trim piece).map Char.toLower = (Text.trim other).map Char.toLower

instance (piece other : List Char) : Decidable (SameName piece other) :=
  inferInstanceAs (Decidable (_ = _))

variable {text other : String} {names : List String}

/-- Naming the same rule does not depend on the order. -/
theorem SameName.symm {piece p : List Char} (h : SameName piece p) : SameName p piece :=
  Eq.symm h

end RuleList

end QueryGuard
