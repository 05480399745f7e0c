import QueryGuard.Json.Basic
import QueryGuard.Verdict.Finding

/-!
# `QueryGuard.Verdict.Basic`: the answer to one query

A verdict says whether a query is safe to run. One that is not safe
names its rule and gives a reason that is not blank; the type holds no
others.
-/

set_option autoImplicit false

namespace QueryGuard

/-- A reason that says something. -/
def isReason (reason : Option Wording) : Bool := reason.any fun r => !r.isBlank

/-- The answer to one query. -/
structure Verdict where
  safe : Bool
  reason : Option Wording
  rule : Option Rule
  reason_of_unsafe : safe = false → isReason reason = true
  rule_of_unsafe : safe = false → rule.isSome = true
  deriving DecidableEq

/-- What a verdict lacks. -/
inductive VerdictError where
  | missingReason
  | missingRule
  | unknownRule (name : String)
  deriving DecidableEq, Repr

/-- The wording for an incomplete verdict. -/
def VerdictError.message : VerdictError → String
  | .missingReason => "unsafe verdict requires a reason"
  | .missingRule => "unsafe verdict requires a rule"
  | .unknownRule name => s!"{Text.quoted name} is not a valid Rule"

namespace Verdict

/-- The query may run. -/
def allow : Verdict := ⟨true, none, none, by decide, by decide⟩

/-- The query must not run, for what was found. -/
def ofFinding (f : Finding) : Verdict :=
  ⟨false, some f.message, some f.rule, fun _ => by simp [isReason, f.isBlank_message],
    fun _ => rfl⟩

/-- The verdict on what was found, if anything was. -/
def ofFinding? : Option Finding → Verdict
  | some f => ofFinding f
  | none => allow

/-- A verdict of the given parts, unless one is missing. -/
def make (safe : Bool) (reason : Option Wording) (rule : Option Rule) :
    Except VerdictError Verdict :=
  if h : safe = false ∧ isReason reason = false then .error .missingReason
  else if h' : safe = false ∧ rule.isSome = false then .error .missingRule
  else .ok ⟨safe, reason, rule,
    fun hs => by
      rcases Bool.eq_false_or_eq_true (isReason reason) with ht | hf
      · exact ht
      · exact absurd ⟨hs, hf⟩ h,
    fun hs => by
      rcases Bool.eq_false_or_eq_true rule.isSome with ht | hf
      · exact ht
      · exact absurd ⟨hs, hf⟩ h'⟩

/-- A rejection by a rule for a reason. -/
def reject (rule : Option Rule) (reason : Option Wording) : Except VerdictError Verdict :=
  make false reason rule

/-- The fields of a verdict. -/
def toJson (v : Verdict) : Json :=
  .object [("safe", .bool v.safe), ("reason", Json.ofWording? v.reason),
    ("rule", Json.ofText? (v.rule.map Rule.name))]

end Verdict

end QueryGuard
