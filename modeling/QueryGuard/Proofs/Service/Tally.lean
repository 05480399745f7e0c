import QueryGuard.Proofs.Metadata.Expiry
import QueryGuard.Proofs.Metadata.Failures
import QueryGuard.Proofs.Service.Handle
import QueryGuard.Proofs.Service.Validate

/-!
# `QueryGuard.Proofs.Service.Tally`: the counter of verdicts counts answers

A service counts the verdicts that it gives, by outcome and rule. The count is
taken inside a validation, and an answer leaves the service several steps later;
in between a request can be refused, and the service can break down. Do the two
agree?

`count_eq_answers` says how far they do, over every run of requests. The sample of an
outcome and a rule is the number of requests for a validation that were answered
with status 200 and with that outcome and rule in the body (`Exchange.verdict?`), and
of verdicts that were lost: those that are counted, but cannot be written into a
response, so that the service breaks down over them. There are no more of these than
breakdowns, and none where the provider tells its failures in characters. No request
of another kind changes a sample of this counter, and none that is refused.

Verdicts do get lost: `lost_halfError` is a backend that reports an error in halves of
pairs. A run starts with counters at zero; between requests the world in which the
provider lives may go on, so nothing is assumed about what it replies.

One thing is assumed of the provider: it gives no verdicts of its own
(`Source.GivesNoVerdicts`). A backend gives none over any transport, and a cache
gives none in front of a source that does not.

The step is `count_handle`, one request. It rests on `react_cases`: a request comes to
a verdict, which is counted, or nothing is counted and there is no answer to a
validation.
-/

set_option autoImplicit false

namespace QueryGuard

open Journal (verdictCounter verdictLabels)

/-- A source that gives no verdicts: asking it does not move the counter of
verdicts. -/
def Source.GivesNoVerdicts {σ α : Type} (source : Source σ α) : Prop :=
  ∀ range s labels, (source range s).journal.count verdictCounter labels = 0

/-- A cache adds a record at most to what its source leaves behind. -/
theorem Source.GivesNoVerdicts.cached {σ α τ : Type} [Sub τ] [LE τ] [DecidableLE τ]
    {source : Source σ α} (h : source.GivesNoVerdicts) (name : String) (clock : σ → τ) :
    (cached name clock source).GivesNoVerdicts := by
  rintro range ⟨cache, s⟩ labels
  cases hlookup : cache.lookup (clock s) with
  | mk found left =>
    cases found with
    | some answer =>
      rw [Cache.cached_of_lookup_some name clock source range hlookup]
      rfl
    | none =>
      rw [Cache.cached_of_lookup_none name clock source range hlookup rfl]
      exact h range s labels

/-- A cache tells no failures of its own. -/
theorem Source.FailsInCharacters.cached {σ α τ : Type} [Sub τ] [LE τ] [DecidableLE τ]
    {source : Source σ α} (h : source.FailsInCharacters) (name : String) (clock : σ → τ) :
    (cached name clock source).FailsInCharacters := by
  rintro range ⟨cache, s⟩ f hf
  cases hlookup : cache.lookup (clock s) with
  | mk found left =>
    cases found with
    | some answer =>
      rw [Cache.cached_of_lookup_some name clock source range hlookup] at hf
      cases hf
    | none =>
      rw [Cache.cached_of_lookup_none name clock source range hlookup rfl] at hf
      exact h range s f hf

/-- A backend gives no verdicts, whatever its transport brings back: fetches move two
other counters. -/
theorem Backend.givesNoVerdicts_provider {σ : Type} (c : Config) (transport : Transport σ) :
    (provider c transport).GivesNoVerdicts := by
  intro range s labels
  have hfetch : Journal.moved? (.fetch providerName) ≠ some (verdictCounter, labels) := by
    simp [Journal.moved?, Journal.fetchCounter, verdictCounter]
  have hfailure : Journal.moved? (.fetchFailure providerName) ≠ some (verdictCounter, labels) := by
    simp [Journal.moved?, Journal.failureCounter, verdictCounter]
  rw [count_provider, if_neg hfetch, if_neg fun h => hfailure h.2]

/-! ### One validation -/

/-- The labels of the sample that a validation moves; only a verdict moves one. -/
def Outcome.labels? : Outcome → Option (Fields String)
  | .verdict v => some (verdictLabels v.safe v.rule)
  | _ => none

/-- A validation moves the sample of its verdict, by one, and no other sample of the
counter of verdicts. -/
def Validated.CountsVerdict {σ : Type} (v : Validated σ) : Prop :=
  ∀ labels, v.journal.count verdictCounter labels =
    if v.outcome.labels? = some labels then 1 else 0

namespace Validation

variable {σ : Type} {query : Wording} {deadline : Option Number} {s : σ} {journal : Journal}

/-- A verdict that concludes a validation is counted once, when nothing was counted before it. -/
theorem countsVerdict_conclude (v : Verdict)
    (hbefore : ∀ labels, journal.count verdictCounter labels = 0) :
    (conclude query v journal s).CountsVerdict := by
  intro labels
  show (journal ++ verdictEvents query v).count verdictCounter labels =
    if some (verdictLabels v.safe v.rule) = some labels then 1 else 0
  have hmoved : Journal.moved? (.verdict v.safe v.rule) = some (verdictCounter, labels) ↔
      some (verdictLabels v.safe v.rule) = some labels := by
    simp [Journal.moved?]
  rw [Journal.count_append, hbefore, verdictEvents, Journal.count_cons, Journal.count_record_cons,
    Journal.count_nil]
  simp only [hmoved, Nat.zero_add]

/-- The record of what went wrong may be written before the verdict is counted. -/
theorem countsVerdict_conclude_record (v : Verdict) (r : Log.Record)
    (hbefore : ∀ labels, journal.count verdictCounter labels = 0) :
    (conclude query v (journal ++ [.record r]) s).CountsVerdict := by
  refine countsVerdict_conclude v fun labels => ?_
  rw [Journal.count_append, hbefore, Journal.count_record_cons, Journal.count_nil]

/-- Settling a fetch that counted no verdict counts the one that it concludes with. -/
theorem countsVerdict_settle {policy : Policy} {selectors : List Selector}
    {fetched : Fetched σ Snapshot}
    (hfetched : ∀ labels, fetched.journal.count verdictCounter labels = 0) :
    (settle query policy deadline selectors fetched).CountsVerdict := by
  unfold settle
  cases fetched.reply with
  | value snapshot => exact countsVerdict_conclude _ hfetched
  | failure f => exact countsVerdict_conclude_record _ _ hfetched
  | never =>
    cases deadline with
    | some d => exact countsVerdict_conclude_record _ _ hfetched
    | none =>
      -- Waiting without end is no verdict.
      exact hfetched

/-- A validation counts the verdict that it ends with, once, and nothing else. -/
theorem countsVerdict_validate {tree : Except QueryError Node} {policy : Option Policy}
    {range : Option TimeRange} {provider : Provider σ} (hprovider : provider.GivesNoVerdicts) :
    (validate query tree policy deadline range provider s).CountsVerdict := by
  unfold validate
  -- Every way out of a validation concludes at most once, before or after the provider.
  cases tree with
  | error e => exact countsVerdict_conclude _ fun _ => rfl
  | ok node =>
    cases policy with
    | none => exact countsVerdict_conclude _ fun _ => rfl
    | some policy =>
      simp only
      cases node.selectors.mapM SelectorNode.resolve with
      | error e => exact fun _ => rfl
      | ok selectors =>
        simp only
        split
        · exact countsVerdict_conclude_record _ _ fun _ => rfl
        · exact countsVerdict_settle (hprovider range s)

end Validation

namespace Service

/-! ### Requests and their answers -/

/-- A request for a validation. -/
def Request.IsValidation (r : Request) : Prop :=
  Text.upper r.method = Route.validate.method ∧ Route.plainPath r.path = Route.validate.path

instance (r : Request) : Decidable r.IsValidation := inferInstanceAs (Decidable (_ ∧ _))

/-- The outcome and the rule that a body tells; a query that is safe has the rule
`none`. -/
def Body.verdict? : Body → Option (String × String)
  | .samples _ | .elsewhere _ => none
  | .document j =>
    match j.field? "safe", j.field? "rule" with
    | some (.bool safe), some (.string rule) => some (if safe then "safe" else "unsafe", rule)
    | some (.bool safe), some .null => some (if safe then "safe" else "unsafe", "none")
    | _, _ => none

/-- A request and its response. -/
structure Exchange where
  request : Request
  response : Response

/-- The outcome and the rule that a request for a validation was answered with. -/
def Exchange.verdict? (x : Exchange) : Option (String × String) :=
  if x.request.IsValidation ∧ x.response.status = 200 then x.response.body.verdict? else none

/-- A validation that was answered with 200 gave the verdict in its body. -/
theorem Exchange.verdict?_of_answered {r : Request} {response : Response} (hr : r.IsValidation)
    (hstatus : response.status = 200) :
    (Exchange.mk r response).verdict? = response.body.verdict? :=
  if_pos ⟨hr, hstatus⟩

/-- A request that is no request for a validation, or is not answered, tells no
verdict. -/
theorem Exchange.verdict?_eq_none {r : Request} {response : Response}
    (h : r.IsValidation → response.status ≠ 200) : (Exchange.mk r response).verdict? = none :=
  if_neg fun hanswered => h hanswered.1 hanswered.2

/-- A request for a validation that the service broke down over. -/
def Exchange.isBroken (x : Exchange) : Bool :=
  decide (x.request.IsValidation ∧ x.response.status = 500)

/-- A verdict as a document tells its outcome and its rule. -/
theorem verdict?_document_toJson (v : Verdict) :
    Body.verdict? (.document v.toJson) =
      some (if v.safe then "safe" else "unsafe", (v.rule.map Rule.name).getD "none") := by
  obtain ⟨safe, reason, rule, -, -⟩ := v
  cases rule <;> rfl

section
variable {σ : Type} {service : Service} {parser : QueryParser} {provider : Provider σ}
  {now : DateTime} {fresh : FreshIds} {r : Request} {s : State σ}

/-- A problem is no answer, whatever it repeats. -/
theorem Reaction.problem_ne_answer (p : Problem) (body : Body) : problem p ≠ .answer body := nofun

/-- A breakdown is no answer. -/
theorem Reaction.breakdown_ne_answer (cause : Log.Failure) (body : Body) :
    breakdown cause ≠ .answer body := nofun

/-- A verdict is counted once and nothing else is, and it can be sent where failures are told
in characters. -/
def CountsOnce (provider : Provider σ) (v : Verdict) (journal : Journal) : Prop :=
  (provider.FailsInCharacters → v.InCharacters) ∧
    ∀ labels, journal.count verdictCounter labels =
      if verdictLabels v.safe v.rule = labels then 1 else 0

/-- A reaction to a form that is answered answers it with a verdict, which is then
counted once; otherwise nothing is counted. -/
theorem validate_cases (hprovider : provider.GivesNoVerdicts) (form : Form) (world : σ) :
    (∃ (v : Verdict) (journal : Journal) (later : σ),
      service.validate parser provider now form world =
        (.answer (.document v.toJson), journal, later) ∧ CountsOnce provider v journal) ∨
    ∃ reaction journal later, service.validate parser provider now form world =
        (reaction, journal, later) ∧
      (∀ body, reaction ≠ .answer body) ∧ ∀ labels, journal.count verdictCounter labels = 0 := by
  cases hrange : TimeRange.parse form.start form.finish now with
  | error e =>
    -- The bounds are refused, or cannot be reckoned with.
    refine .inr ⟨refuseTime e, [], world, by rw [validate, hrange], fun body => ?_, fun _ => rfl⟩
    unfold refuseTime
    split
    · exact Reaction.problem_ne_answer _ body
    · exact Reaction.breakdown_ne_answer _ body
  | ok range =>
    cases hpolicy : service.policyFor form with
    | error e =>
      refine .inr ⟨.problem (.invalidPolicy e.message), [], world, ?_,
        Reaction.problem_ne_answer _, fun _ => rfl⟩
      rw [validate, hrange]
      simp only [hpolicy]
    | ok policy =>
      have hcount : (Validation.validate form.query (readQuery parser form.query) policy
          (some (.double service.settings.timeout)) (some range) provider world).CountsVerdict :=
        Validation.countsVerdict_validate hprovider
      rw [validate_of_policy provider world hrange hpolicy]
      cases houtcome : (Validation.validate form.query (readQuery parser form.query) policy
          (some (.double service.settings.timeout)) (some range) provider world).outcome with
      | verdict v =>
        -- The query of a form consists of characters, so the reason does if the failure does.
        refine .inl ⟨v, _, _, rfl, fun htold => Validation.inCharacters_of_outcome
          (Wording.isPlain_ofString form.query) (htold _ _) houtcome, fun labels => ?_⟩
        rw [hcount, houtcome]
        simp only [Outcome.labels?, Option.some.injEq]
      | unsupported e =>
        refine .inr ⟨_, _, _, rfl, Reaction.breakdown_ne_answer _, fun labels => ?_⟩
        rw [hcount, houtcome]
        rfl
      | waiting =>
        refine .inr ⟨_, _, _, rfl, Reaction.breakdown_ne_answer _, fun labels => ?_⟩
        rw [hcount, houtcome]
        rfl

/-- A request ends in one of two ways: it is a request for a validation that comes to
a verdict, which is counted once; or nothing is counted, and if it is a request for a
validation, it is not answered. -/
theorem react_cases (hprovider : provider.GivesNoVerdicts) :
    (r.IsValidation ∧ ∃ (v : Verdict) (journal : Journal) (later : σ),
      service.react parser provider now r s =
        (.answer (.document v.toJson), journal, later) ∧ CountsOnce provider v journal) ∨
    ∃ reaction journal later, service.react parser provider now r s =
        (reaction, journal, later) ∧
      (r.IsValidation → ∀ body, reaction ≠ .answer body) ∧
      ∀ labels, journal.count verdictCounter labels = 0 := by
  unfold react
  split
  · split <;> exact .inr ⟨_, _, _, rfl, fun _ => nofun, fun _ => rfl⟩
  · next route hroute =>
    have hpath : route.path = Route.plainPath r.path := by
      simpa using List.find?_some hroute
    split
    · next hmethod =>
      cases route with
      | validate =>
        have hr : r.IsValidation := ⟨hmethod, hpath.symm⟩
        unfold serveRoute
        simp only
        split
        · next form _ =>
          rcases validate_cases hprovider form s.provider with
            hanswered | ⟨reaction, journal, later, heq, hnone, hcount⟩
          · exact .inl ⟨hr, hanswered⟩
          · exact .inr ⟨reaction, journal, later, heq, fun _ => hnone, hcount⟩
        · exact .inr ⟨_, _, _, rfl, fun _ => nofun, fun _ => rfl⟩
        · exact .inr ⟨_, _, _, rfl, fun _ => nofun, fun _ => rfl⟩
        · exact .inr ⟨_, _, _, rfl, fun _ => nofun, fun _ => rfl⟩
      -- The other routes count nothing, and have another path.
      | health =>
        refine .inr ⟨_, _, _, rfl, fun hr => absurd (hpath.trans hr.2) (by decide), fun _ => rfl⟩
      | policy =>
        refine .inr ⟨_, _, _, rfl, fun hr => absurd (hpath.trans hr.2) (by decide), fun _ => rfl⟩
      | metrics =>
        refine .inr ⟨_, _, _, rfl, fun hr => absurd (hpath.trans hr.2) (by decide), fun _ => rfl⟩
    · exact .inr ⟨_, _, _, rfl, fun _ => nofun, fun _ => rfl⟩

/-- The labels of the sample of an outcome and a rule. -/
def tallyLabels (outcome rule : String) : Fields String := [("outcome", outcome), ("rule", rule)]

/-- The labels of a verdict are its outcome and its rule's name. -/
theorem verdictLabels_eq (safe : Bool) (rule : Option Rule) :
    verdictLabels safe rule =
      tallyLabels (if safe then "safe" else "unsafe") ((rule.map Rule.name).getD "none") := rfl

/-- Labels are equal exactly when outcome and rule are. -/
theorem tallyLabels_inj {outcome rule outcome' rule' : String} :
    tallyLabels outcome rule = tallyLabels outcome' rule' ↔
      some (outcome, rule) = some (outcome', rule') := by
  simp [tallyLabels]

/-- The verdicts of an outcome and a rule that are lost between two counts: no more than
there are breakdowns, and none if failures are told in characters. -/
def Lost (provider : Provider σ) (broken lost : Nat) : Prop :=
  lost ≤ broken ∧ (provider.FailsInCharacters → lost = 0)

/-- To lose nothing is within every bound. -/
theorem lost_zero (broken : Nat) : Lost provider broken 0 := ⟨broken.zero_le, fun _ => rfl⟩

/-- Serving a request moves the sample of the verdict that it is answered with, by one, or
that of a verdict that is lost, and no other sample of that counter. -/
theorem count_handle (service : Service) (parser : QueryParser)
    (hprovider : provider.GivesNoVerdicts) (now : DateTime) (fresh : FreshIds) (r : Request)
    (s : State σ) (outcome rule : String) :
    ∃ lost, (service.handle parser provider now fresh r s).2.journal.count verdictCounter
        (tallyLabels outcome rule) =
      s.journal.count verdictCounter (tallyLabels outcome rule) +
        (if (Exchange.mk r (service.handle parser provider now fresh r s).1).verdict? =
          some (outcome, rule) then 1 else 0) + lost ∧
      Lost provider (if (Exchange.mk r (service.handle parser provider now fresh r s).1).isBroken
        then 1 else 0) lost := by
  rcases react_cases hprovider with
    ⟨hr, v, journal, later, hreact, htold, hcount⟩ | ⟨reaction, journal, later, hreact, hnone, hcount⟩
  · rcases handle_cases fresh hreact with
      ⟨body, hbody, -, hhandle⟩ | ⟨route, hroute, -⟩ | ⟨p, hp, -⟩ | ⟨hbroken, cause, hhandle⟩
    · cases hbody
      refine ⟨0, ?_, lost_zero _⟩
      rw [hhandle, Exchange.verdict?_of_answered hr rfl, verdict?_document_toJson,
        Journal.count_append, Journal.count_under, hcount, verdictLabels_eq]
      simp only [tallyLabels_inj, Nat.add_zero]
    · cases hroute
    · cases hp
    · -- The verdict is counted, but cannot be written down.
      have hunsent : ¬ v.InCharacters := fun hv => by
        obtain ⟨_, ⟨⟩⟩ := hbroken (Verdict.sendable_toJson_iff.2 hv)
      have hverdict : (Exchange.mk r (.ofBreakdown (r.idOutside fresh))).verdict? = none :=
        Exchange.verdict?_eq_none fun _ => nofun
      have hisBroken : (Exchange.mk r (.ofBreakdown (r.idOutside fresh))).isBroken = true :=
        decide_eq_true ⟨hr, rfl⟩
      refine ⟨if verdictLabels v.safe v.rule = tallyLabels outcome rule then 1 else 0, ?_, ?_, ?_⟩
      · have hnone : (if none = some (outcome, rule) then 1 else 0) = 0 := if_neg nofun
        rw [hhandle, hverdict, Journal.count_append, count_breakdownJournal, hcount, hnone,
          Nat.add_zero]
      · rw [hhandle, hisBroken]
        split <;> decide
      · exact fun hfails => absurd (htold hfails) hunsent
  · -- Nothing is counted, and there is no answer that tells a verdict.
    have hsame {response : Response} {later : State σ}
        (hhandle : service.handle parser provider now fresh r s = (response, later))
        (hstatus : r.IsValidation → response.status ≠ 200)
        (hlater : later.journal.count verdictCounter (tallyLabels outcome rule) =
          s.journal.count verdictCounter (tallyLabels outcome rule)) :
        (service.handle parser provider now fresh r s).2.journal.count verdictCounter
            (tallyLabels outcome rule) =
          s.journal.count verdictCounter (tallyLabels outcome rule) +
            (if (Exchange.mk r (service.handle parser provider now fresh r s).1).verdict? =
              some (outcome, rule) then 1 else 0) + 0 := by
      rw [hhandle, Exchange.verdict?_eq_none hstatus, if_neg nofun, hlater, Nat.add_zero]
    refine ⟨0, ?_, lost_zero _⟩
    rcases handle_cases fresh hreact with
      ⟨body, hbody, -, hhandle⟩ | ⟨route, -, hhandle⟩ | ⟨p, -, -, hhandle⟩ | ⟨-, cause, hhandle⟩
    · refine hsame hhandle (fun hr => absurd hbody (hnone hr body)) ?_
      rw [Journal.count_append, Journal.count_under, hcount, Nat.add_zero]
    · refine hsame hhandle (fun _ => nofun) ?_
      rw [Journal.count_append, Journal.count_under, hcount, Nat.add_zero]
    · refine hsame hhandle (fun _ hok => ?_) ?_
      · have hlow : 400 ≤ p.status := p.status_bounds.1
        have hok : p.status = 200 := hok
        omega
      · rw [Journal.count_append, count_problemJournal, hcount, Nat.add_zero]
    · refine hsame hhandle (fun _ => nofun) ?_
      rw [Journal.count_append, count_breakdownJournal, hcount, Nat.add_zero]

/-! ### A whole run -/

/-- A run of a service: the requests with their responses, the latest first, and the
state after them. The counter of verdicts starts at zero. Between requests the world in which
the provider lives may become any other. -/
inductive Run (service : Service) (parser : QueryParser) (provider : Provider σ) :
    List Exchange → State σ → Prop where
  | start (s : State σ) (zero : ∀ labels, s.journal.count verdictCounter labels = 0) :
    Run service parser provider [] s
  | pause {past : List Exchange} {s : State σ} (h : Run service parser provider past s)
    (world : σ) : Run service parser provider past { s with provider := world }
  | serve {past : List Exchange} {s : State σ} (h : Run service parser provider past s)
    (now : DateTime) (fresh : FreshIds) (r : Request) :
    Run service parser provider
      (⟨r, (service.handle parser provider now fresh r s).1⟩ :: past)
      (service.handle parser provider now fresh r s).2

/-- Along a run the counter of verdicts counts the answers that tell one, and the verdicts
that are lost. -/
theorem Run.count_eq {past : List Exchange} (hprovider : provider.GivesNoVerdicts)
    (h : Run service parser provider past s) (outcome rule : String) :
    ∃ lost, s.journal.count verdictCounter (tallyLabels outcome rule) =
      (past.countP fun x => x.verdict? = some (outcome, rule)) + lost ∧
      Lost provider (past.countP (·.isBroken)) lost := by
  -- On the run. What one exchange adds and what it loses is `count_handle`.
  induction h with
  | start s zero => exact ⟨0, zero _, lost_zero _⟩
  | pause _ _ ih => exact ih
  | @serve past s _ now fresh r ih =>
    obtain ⟨before, hbefore, hle, hzero⟩ := ih
    obtain ⟨here, hhere, hleHere, hzeroHere⟩ :=
      count_handle service parser hprovider now fresh r _ outcome rule
    refine ⟨before + here, ?_, ?_, fun hfails => by rw [hzero hfails, hzeroHere hfails]⟩
    · rw [hhere, hbefore, List.countP_cons]
      simp only [decide_eq_true_eq]
      omega
    · rw [List.countP_cons]
      exact Nat.add_le_add hle hleHere

/-- Along a run the sample of an outcome and a rule is the number of requests for a
validation that were answered with them, and of verdicts that were lost: no more than there
were breakdowns over such requests, and none if the provider tells its failures in characters.
The sample is what is shown of the counter. A request that is no request for a validation, or
is neither answered nor broken down over, leaves all samples of the counter as they were. -/
theorem count_eq_answers {past : List Exchange} (hprovider : provider.GivesNoVerdicts)
    (h : Run service parser provider past s) :
    (∀ outcome rule, ∃ lost, s.journal.count verdictCounter (tallyLabels outcome rule) =
      (past.countP fun x => x.verdict? = some (outcome, rule)) + lost ∧
      lost ≤ past.countP (·.isBroken) ∧ (provider.FailsInCharacters → lost = 0)) ∧
    (∀ outcome rule n, ⟨verdictCounter, tallyLabels outcome rule, n⟩ ∈ s.journal.samples ↔
      0 < n ∧ n = s.journal.count verdictCounter (tallyLabels outcome rule)) ∧
    ∀ now fresh r,
      (r.IsValidation → (service.handle parser provider now fresh r s).1.status ≠ 200 ∧
        ((service.handle parser provider now fresh r s).1.status = 500 →
          provider.FailsInCharacters)) →
      ∀ outcome rule,
        (service.handle parser provider now fresh r s).2.journal.count verdictCounter
            (tallyLabels outcome rule) =
          s.journal.count verdictCounter (tallyLabels outcome rule) := by
  refine ⟨h.count_eq hprovider, fun _ _ _ => Journal.mem_samples_iff, ?_⟩
  intro now fresh r hr outcome rule
  obtain ⟨lost, hcount, hle, hzero⟩ :=
    count_handle service parser hprovider now fresh r s outcome rule
  rw [Exchange.verdict?_eq_none fun hasks => (hr hasks).1, if_neg nofun] at hcount
  -- Nothing is lost without a breakdown, and with one by the assumption on the provider.
  have hlost : lost = 0 := by
    by_cases hbroken : r.IsValidation ∧ (service.handle parser provider now fresh r s).1.status = 500
    · exact hzero ((hr hbroken.1).2 hbroken.2)
    · have hnot : (Exchange.mk r (service.handle parser provider now fresh r s).1).isBroken = false :=
        decide_eq_false hbroken
      rw [hnot] at hle
      exact Nat.le_zero.1 hle
  omega

end

/-! ### Samples -/

/-- A body that asks for a query and leaves the rest open. -/
def openBody : Json := .object [("query", .string "up")]

/-- A request about the service's health. -/
def healthRequest : Request where
  method := "GET"
  path := "/healthz"

/-- One hour after the first moment of the calendar. -/
def secondHour : DateTime := ⟨3600000000, some 0, by decide⟩

/-- A parser that knows one query. -/
def upParser : QueryParser := fun _ => .ok (.selector Validation.upAlone)

/-- The body is posted as it is. -/
theorem posts_openBody : (Request.posting openBody).Posts openBody := by
  refine Request.posts_posting (.object (by decide) ?_)
  simp [Json.Plain.string]

/-- It fills the form with its query alone. -/
theorem filledBy_openBody : Form.FilledBy ⟨"up", none, none, none⟩ openBody :=
  Form.ofJson_eq_ok_iff.1 rfl

/-- The request is one for validation. -/
theorem isValidation_openBody : (Request.posting openBody).IsValidation := by
  decide

/-- An hour into the calendar, the window of the last hour still fits in it. -/
theorem exists_parse_open : ∃ range, TimeRange.parse none none secondHour = .ok range :=
  ⟨_, rfl⟩

/-- A provider that fails leaves the query unchecked. The verdict repeats the failure, and
is counted. -/
theorem exists_react_openBody {σ : Type} {provider : Provider σ} {s : State σ} {f : FetchFailure}
    (hprovider : provider.GivesNoVerdicts)
    (hfails : ∀ range, (provider range s.provider).reply = .failure f) :
    ∃ (v : Verdict) (journal : Journal) (later : σ),
      v = .ofFinding (Validation.failureFinding
        (some (.double standardService.settings.timeout)) f) ∧
      standardService.react upParser provider secondHour (.posting openBody) s =
        (.answer (.document v.toJson), journal, later) ∧
      ∀ labels, journal.count verdictCounter labels =
        if verdictLabels v.safe v.rule = labels then 1 else 0 := by
  obtain ⟨range, hrange⟩ := exists_parse_open
  have hpolicy : standardService.policyFor ⟨"up", none, none, none⟩ = .ok (some .standard) := rfl
  have hread : readQuery upParser "up" = .ok (.selector Validation.upAlone) := rfl
  -- The standard deadline is positive, so the provider is asked.
  have htime : Validation.LeavesTime (some (.double standardService.settings.timeout)) := by
    have hpositive : (Number.double Settings.standard.timeout).isPositive = true := by
      decide +kernel
    intro d hd
    rw [← Option.some.inj hd]
    exact hpositive
  have houtcome : (Validation.validate "up" (readQuery upParser "up") (some .standard)
      (some (.double standardService.settings.timeout)) (some range) provider s.provider).outcome =
        .verdict (.ofFinding (Validation.failureFinding
          (some (.double standardService.settings.timeout)) f)) := by
    rw [hread, Validation.validate_of_leavesTime Validation.resolves_upAlone htime,
      Validation.outcome_settle, hfails]
  -- The count is the general one; only the outcome is particular to this provider.
  have hcount : (Validation.validate "up" (readQuery upParser "up") (some .standard)
      (some (.double standardService.settings.timeout)) (some range) provider
      s.provider).CountsVerdict := Validation.countsVerdict_validate hprovider
  have hreact : standardService.react upParser provider secondHour (.posting openBody) s =
      (report (Validation.validate "up" (readQuery upParser "up") (some .standard)
        (some (.double standardService.settings.timeout)) (some range) provider
        s.provider).outcome, _, _) :=
    (react_of_form posts_openBody filledBy_openBody).trans
      (validate_of_policy provider s.provider hrange hpolicy)
  rw [houtcome] at hreact
  refine ⟨_, _, _, rfl, hreact, fun labels => ?_⟩
  rw [hcount, houtcome]
  simp only [Outcome.labels?, Option.some.injEq]

/-- A backend that refuses every connection, after a second. -/
def refusingBackend : Backend.Transport ℤ := fun _ now => (.broken "refused", now + 1)

/-- A cache in front of that backend. -/
def refusingCache : Provider (Cache Snapshot ℤ × ℤ) :=
  cached "cached:prometheus" id (Backend.provider Settings.standard.backend refusingBackend)

/-- What that backend is reported with. -/
def refusal : FetchFailure := .unavailable "cannot reach metrics backend: refused"

/-- A cached backend counts its fetches, never verdicts. -/
theorem givesNoVerdicts_refusingCache : refusingCache.GivesNoVerdicts :=
  (Backend.givesNoVerdicts_provider _ _).cached _ _

/-- The backend's refusal is metadata that is unavailable. -/
theorem reply_refusingBackend (range : Option TimeRange) (now : ℤ) :
    (Backend.provider Settings.standard.backend refusingBackend range now).reply =
      .failure refusal := rfl

/-- Its words can be written. -/
theorem failsInCharacters_refusingCache : refusingCache.FailsInCharacters := by
  refine Source.FailsInCharacters.cached (fun range now f hf => ?_) _ _
  cases (reply_refusingBackend range now).symm.trans hf
  exact Wording.isPlain_ofString _

/-- The service before its first request, with nothing in the cache. -/
def freshState : State (Cache Snapshot ℤ × ℤ) := ⟨(⟨60, none⟩, 0), []⟩

/-- The backend cannot be reached, so the query cannot be checked. -/
theorem verdict?_openBody :
    (Exchange.mk (.posting openBody) (standardService.handle upParser refusingCache secondHour
      sampleIds (.posting openBody) freshState).1).verdict? =
        some ("unsafe", "metadata-unavailable") := by
  have hfails (range : Option TimeRange) :
      (refusingCache range freshState.provider).reply = .failure refusal := rfl
  obtain ⟨v, journal, later, hv, hreact, -⟩ :=
    exists_react_openBody givesNoVerdicts_refusingCache hfails
  have htold : v.InCharacters := by
    rw [hv]
    exact Verdict.inCharacters_ofFinding
      (Validation.inCharacters_failureFinding (Wording.isPlain_ofString _))
  rw [response_of_answer hreact (Verdict.sendable_toJson_iff.2 htold),
    Exchange.verdict?_of_answered isValidation_openBody rfl, verdict?_document_toJson, hv]
  rfl

/-- A request for a validation that is answered, then one about the service's
health: one verdict is counted, and one is shown. -/
theorem count_openRequest :
    refusingCache.GivesNoVerdicts ∧ refusingCache.FailsInCharacters ∧
    ∃ past s, Run standardService upParser refusingCache past s ∧ past.length = 2 ∧
      (past.countP fun x => x.verdict? = some ("unsafe", "metadata-unavailable")) = 1 ∧
      s.journal.count verdictCounter (tallyLabels "unsafe" "metadata-unavailable") = 1 ∧
      ⟨verdictCounter, tallyLabels "unsafe" "metadata-unavailable", 1⟩ ∈ s.journal.samples := by
  have hstart : Run standardService upParser refusingCache [] freshState :=
    .start freshState fun _ => rfl
  -- The run lemma counts; only the answer of each exchange is looked at.
  have hrun := (hstart.serve secondHour sampleIds (.posting openBody)).serve secondHour sampleIds
    healthRequest
  obtain ⟨hcount, hshown, -⟩ := count_eq_answers givesNoVerdicts_refusingCache hrun
  have hhealth (response : Response) : (Exchange.mk healthRequest response).verdict? = none :=
    Exchange.verdict?_eq_none fun hr => absurd hr (by decide)
  obtain ⟨lost, hsample, -, hzero⟩ := hcount "unsafe" "metadata-unavailable"
  have hlost : lost = 0 := hzero failsInCharacters_refusingCache
  simp only [List.countP_cons, List.countP_nil, hhealth, verdict?_openBody, hlost] at hsample
  refine ⟨givesNoVerdicts_refusingCache, failsInCharacters_refusingCache, _, _, hrun, rfl, ?_,
    hsample, (hshown _ _ _).2 ⟨Nat.one_pos, hsample.symm⟩⟩
  simp only [List.countP_cons, List.countP_nil, hhealth, verdict?_openBody]
  rfl

/-- A status document that reports an error in half of a pair. -/
def halfError : Json := .object [("status", .string "error"), ("error", .halved loneHalf)]

/-- A backend that answers with that document. -/
def halfBackend : Backend.Transport Nat :=
  fun _ n => (.response 200 (Json.encode .line halfError), n + 1)

/-- A provider in front of that backend. -/
def halfProvider : Provider Nat := Backend.provider Settings.standard.backend halfBackend

/-- The service before its first request to that provider. -/
def untouched : State Nat := ⟨0, []⟩

/-- What is told of that error repeats the half. -/
theorem reply_halfProvider (range : Option TimeRange) (n : Nat) :
    (halfProvider range n).reply =
      .failure (.unavailable (TsdbError.failed (.string "error") (.halved loneHalf)).message) := by
  have hplain : halfError.Plain := by
    refine .object (by decide) ?_
    exact List.forall_mem_cons.2 ⟨.string "error", List.forall_mem_singleton.2 (.halved rfl)⟩
  -- The document is read back by the round trip, not by evaluating the reader.
  have hread : Backend.readBody (Json.encode .line halfError) =
      .failure (.unavailable (TsdbError.failed (.string "error") (.halved loneHalf)).message) := by
    unfold Backend.readBody
    rw [Json.decodeBody_encode hplain .line]
    rfl
  unfold halfProvider
  rw [Backend.provider_eq]
  unfold halfBackend Backend.receive
  simp only [hread]
  rfl

/-- Nor does the provider of the backend that answers with half of a pair. -/
theorem givesNoVerdicts_halfProvider : halfProvider.GivesNoVerdicts :=
  Backend.givesNoVerdicts_provider _ _

/-- The verdict on a query that was left unchecked over that error. -/
def halfVerdict : Verdict :=
  .ofFinding (.metadataUnavailable
    (some (TsdbError.failed (.string "error") (.halved loneHalf)).message))

/-- The verdict repeats half of a pair, so it cannot be sent. -/
theorem not_inCharacters_halfVerdict : ¬ halfVerdict.InCharacters := by
  intro htold
  have hplain : (Finding.metadataUnavailable
      (some (TsdbError.failed (.string "error") (.halved loneHalf)).message)).message.isPlain =
        true := htold _ rfl
  revert hplain
  decide +kernel

/-- One request for a validation comes to a verdict, which is counted; but its reason holds
half of a pair, and the service breaks down over the response. -/
theorem lost_halfError :
    halfProvider.GivesNoVerdicts ∧
    ∃ past s, Run standardService upParser halfProvider past s ∧
      (past.map (·.response.status)) = [500] ∧
      s.journal.count verdictCounter (tallyLabels "unsafe" "metadata-unavailable") = 1 ∧
      (past.countP fun x => x.verdict? = some ("unsafe", "metadata-unavailable")) = 0 := by
  have hstart : Run standardService upParser halfProvider [] untouched :=
    .start untouched fun _ => rfl
  have hrun := hstart.serve secondHour sampleIds (.posting openBody)
  have hfails (range : Option TimeRange) := reply_halfProvider range 0
  obtain ⟨v, journal, later, hv, hreact, hcount⟩ :=
    exists_react_openBody (s := untouched) givesNoVerdicts_halfProvider hfails
  have hhalf : v = halfVerdict := hv
  have hlabels : verdictLabels v.safe v.rule = tallyLabels "unsafe" "metadata-unavailable" := by
    rw [hhalf]
    rfl
  -- The verdict repeats the half pair, so of the four ways to end only the breakdown is
  -- left.
  rcases handle_cases sampleIds hreact with
    ⟨body, hbody, hwritten, -⟩ | ⟨route, hroute, -⟩ | ⟨p, hp, -⟩ | ⟨-, cause, hhandle⟩
  · rw [hhalf] at hwritten
    exact absurd (Verdict.sendable_toJson_iff.1 hwritten) not_inCharacters_halfVerdict
  · cases hroute
  · cases hp
  · have hnone : (Exchange.mk (.posting openBody)
        (.ofBreakdown ((Request.posting openBody).idOutside sampleIds))).verdict? = none :=
      Exchange.verdict?_eq_none fun _ => nofun
    rw [hhandle] at hrun
    refine ⟨givesNoVerdicts_halfProvider, _, _, hrun, rfl, ?_, ?_⟩
    · rw [Journal.count_append, count_breakdownJournal, hcount, if_pos hlabels]
      rfl
    · rw [List.countP_cons, hnone]
      rfl

end Service

end QueryGuard
