/-!
# `QueryGuard.Text.Span`: classes of characters as spans of code points
-/

set_option autoImplicit false

namespace QueryGuard.Text

/-- The code points from `first` to `last`, both included. -/
structure Span where
  first : Nat
  last : Nat

/-- A character lies in one of the spans. -/
def Span.cover (spans : List Span) (c : Char) : Bool :=
  spans.any fun s => s.first ≤ c.toNat && c.toNat ≤ s.last

end QueryGuard.Text
