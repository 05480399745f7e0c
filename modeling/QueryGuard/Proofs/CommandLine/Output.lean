import QueryGuard.Proofs.CommandLine.Agreement
import QueryGuard.Proofs.Json.Characters

/-!
# `QueryGuard.Proofs.CommandLine.Output`: what the program prints

A query is any text, and the reason of a verdict quotes it: with its quotes and
backslashes, its control characters, and its characters of any plane. The program prints
a document that holds the reason, in ASCII alone (`toNat_lt_of_mem_page`).

`prints_verdict` says that nothing is lost on that way. Whenever the program gets as far
as validating, it prints a document that is read back as the verdict, to the letter of its
reason, and the exit code tells whether the query is safe. It does end with a verdict,
whatever the provider does, because the command line always sets a deadline; only an
unknown comparison in the tree is no verdict.
-/

set_option autoImplicit false

namespace QueryGuard.CommandLine

/-- A verdict is printed in ASCII. -/
theorem toNat_lt_of_mem_page (v : Verdict) {c : Char}
    (hc : c ∈ (Json.encode .page v.toJson ++ "\n").toList) : c.toNat < 0x80 := by
  rw [String.toList_append] at hc
  rcases List.mem_append.1 hc with hc | hc
  · exact (Json.writes_of_mem_encode v.plain_toJson .page hc).toNat_lt rfl
  · rw [List.mem_singleton.1 hc]
    decide

/-- Whether the verdict is safe stands under its own name. -/
theorem field?_safe_toJson (v : Verdict) : v.toJson.field? "safe" = some (.bool v.safe) := rfl

/-- The validation that a run makes once it is prepared. -/
def validation {σ : Type} (a : Arguments) (p : Preparation) (parser : QueryParser)
    (transport : Backend.Transport σ) (s : σ) : Validated σ :=
  Validation.validate a.query (readQuery parser a.query) p.policy (some (.double a.timeout))
    (some p.range) (providerFor a p transport) s

section
variable {settings : Settings} {words : List String} {now : DateTime} {parser : QueryParser}
  {files : Files} {a : Arguments} {p : Preparation} {σ : Type} (transport : Backend.Transport σ)
  (s : σ)

/-- A run that is prepared shows how its validation ends. -/
theorem shows_run (hread : Arguments.read settings words = .ok a)
    (hprepare : prepare a now files = .ok p) :
    (run settings words now parser files transport s).1.Shows
      (.ofOutcome (validation a p parser transport s).outcome) := by
  unfold run
  rw [hread]
  show (runWith a now parser files transport s).1.Shows _
  rw [runWith_of_prepare hprepare]
  exact shows_conclude a _

/-- A validation from the command line has a deadline, so nobody is waited for. -/
theorem exists_verdict_of_validation
    (supported : ∀ node, readQuery parser a.query = .ok node → node.Supported) :
    ∃ v, (validation a p parser transport s).outcome = .verdict v :=
  Validation.exists_verdict_of_ends supported nofun

/-- A run that gets as far as validating ends with a verdict, if the comparisons of the
query are known. What it prints is ASCII and is read as the three fields of the verdict,
and the exit code is zero or one as the query is safe or not. -/
theorem prints_verdict (hread : Arguments.read settings words = .ok a)
    (hprepare : prepare a now files = .ok p)
    (supported : ∀ node, readQuery parser a.query = .ok node → node.Supported) :
    ∃ v result document,
      (validation a p parser transport s).outcome = .verdict v ∧
      (run settings words now parser files transport s).1 = .result result ∧
      (∀ c ∈ result.output.toList, c.toNat < 0x80) ∧
      Json.decode result.output = .ok document ∧
      document = .object [("safe", .bool v.safe), ("reason", Json.ofWording? v.reason),
        ("rule", Json.ofText? (v.rule.map Rule.name))] ∧
      (result.code = 0 ↔ document.field? "safe" = some (.bool true)) ∧
      (result.code = 1 ↔ document.field? "safe" ≠ some (.bool true)) := by
  obtain ⟨v, hv⟩ : ∃ v, (validation a p parser transport s).outcome = .verdict v :=
    exists_verdict_of_validation transport s supported
  have hshows : (run settings words now parser files transport s).1.Shows
      (.ofOutcome (validation a p parser transport s).outcome) :=
    shows_run transport s hread hprepare
  rw [hv] at hshows
  obtain ⟨result, hresult, hcode, houtput⟩ := hshows
  refine ⟨v, result, v.toJson, hv, hresult, ?_, ?_, rfl, ?_, ?_⟩
  · rw [houtput]
    exact fun _ => toNat_lt_of_mem_page v
  · rw [houtput, decode_page]
  · rw [hcode, field?_safe_toJson]
    cases v.safe <;> simp
  · rw [hcode, field?_safe_toJson]
    cases v.safe <;> simp

end

/-! ### A sample -/

/-- A text with quotes, control characters, a character beyond the first plane, and what
looks like the escape of a letter. -/
def oddQuery : String := "'\"\x07\n\x7f🔥\\u0041"

/-- A command line for it. -/
def oddWords : List String := ["--start", "NOW", oddQuery]

/-- A parser that knows no query. -/
def noParser : QueryParser := fun _ => .error "unexpected character"

/-- The words are read, with the odd query as it stands. -/
theorem read_oddWords :
    ∃ a, Arguments.read Settings.standard oddWords = .ok a ∧ a.query = oddQuery ∧
      a.start = some "NOW" ∧ a.finish = none ∧ a.snapshot = none ∧
      ∃ policy, policyFor a = .ok policy := by
  have hwords : readWords oddWords =
      .ok [.named .start false none, .plain "NOW", .plain oddQuery] := by
    decide +kernel
  unfold Arguments.read
  rw [hwords]
  exact ⟨_, rfl, rfl, rfl, rfl, rfl, _, rfl⟩

/-- Without a snapshot file to read, the command is prepared at once. -/
theorem prepare_of_oddWords {a : Arguments} {policy : Option Policy} (hstart : a.start = some "NOW")
    (hfinish : a.finish = none) (hsnapshot : a.snapshot = none)
    (hpolicy : policyFor a = .ok policy) (files : Files) :
    ∃ p, prepare a Service.firstMoment files = .ok p := by
  obtain ⟨range, hrange⟩ : ∃ range, TimeRange.parse (some "NOW") none Service.firstMoment =
    .ok range := parse_bareForm
  refine ⟨⟨policy, range, none⟩, ?_⟩
  unfold prepare
  rw [hpolicy, hstart, hfinish, hrange, hsnapshot]
  rfl

/-- What is printed about that text names every one of its characters. -/
theorem prints_oddQuery :
    ∃ a p result, Arguments.read Settings.standard oddWords = .ok a ∧
      prepare a Service.firstMoment upFiles = .ok p ∧
      (∀ node, readQuery noParser a.query = .ok node → node.Supported) ∧
      (run Settings.standard oddWords Service.firstMoment noParser upFiles noBackend ()).1 =
        .result result ∧
      (∀ c ∈ result.output.toList, c.toNat < 0x80) ∧
      Json.decode result.output = .ok (.object [("safe", .bool false),
        ("reason", .ofWording (Finding.syntaxError oddQuery "unexpected character").message),
        ("rule", .string "syntax-error")]) ∧
      result.code = 1 := by
  obtain ⟨a, hread, hquery, hstart, hfinish, hsnapshot, policy, hpolicy⟩ := read_oddWords
  obtain ⟨p, hprepare⟩ := prepare_of_oddWords hstart hfinish hsnapshot hpolicy upFiles
  have htree : readQuery noParser a.query = .error ⟨oddQuery, "unexpected character"⟩ := by
    rw [hquery]
    unfold readQuery
    rw [if_neg (by decide)]
    rfl
  have hsupported : ∀ node, readQuery noParser a.query = .ok node → node.Supported := by
    intro node hnode
    cases htree.symm.trans hnode
  -- The general theorem prints; the particular verdict is read off the validation.
  obtain ⟨v, result, document, hv, hresult, hascii, hdecode, hdocument, -, hcode⟩ :=
    prints_verdict noBackend () hread hprepare hsupported
  have hverdict : v = .ofFinding (.syntaxError oddQuery "unexpected character") := by
    unfold validation at hv
    rw [htree, hquery] at hv
    exact (Outcome.verdict.inj hv).symm
  have hreason (f : Finding) :
      Json.ofWording? (Verdict.ofFinding f).reason = .ofWording f.message := rfl
  subst hverdict
  subst hdocument
  rw [hreason] at hdecode
  exact ⟨a, p, result, hread, hprepare, hsupported, hresult, hascii, hdecode, hcode.2 nofun⟩

end QueryGuard.CommandLine
