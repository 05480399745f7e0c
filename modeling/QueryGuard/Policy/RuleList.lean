import QueryGuard.Policy.Basic
import QueryGuard.Text.Blank
import QueryGuard.Text.Case
import QueryGuard.Text.Split

/-!
# `QueryGuard.Policy.RuleList`: policies by the names of their rules

A rule list is `all`, `none`, or names of rules between commas, in
either case and with blanks wherever they fall. No list, a blank one and
`none` ask for no policy at all.
-/

set_option autoImplicit false

namespace QueryGuard.RuleList

/-- The text of a list that decides its meaning. -/
def normalise (text : Option String) : String := Text.lower (Text.strip (text.getD ""))

/-- The names between the commas, blank ones left out. -/
def tokens (list : String) : List String :=
  ((Text.splitAt ',' list.toList).map fun piece => String.ofList (Text.trim piece)).filter
    (· != "")

/-- The rules of a row of names, or the first name that no rule has. -/
def rules (names : List String) : Except PolicyError (List PolicyRule) :=
  names.mapM fun name =>
    match PolicyRule.ofName? name with
    | some rule => .ok rule
    | none => .error (.unknownRule name)

/-- The policy that a list asks for, if it asks for one. -/
def parse (text : Option String) : Except PolicyError (Option Policy) :=
  let list := normalise text
  if list = "" || list = "none" then .ok none
  else if list = "all" then .ok (some Policy.standard)
  else do
    let rules ← rules (tokens list)
    return some (Policy.ofRules rules)

/-- The policy that a list and two thresholds ask for. -/
def load (text : Option String) (metric label : Json) : Except PolicyError (Option Policy) := do
  match ← parse text with
  | none => return none
  | some policy =>
    let policy ← policy.withThresholds (some metric) (some label)
    return some policy

end QueryGuard.RuleList
