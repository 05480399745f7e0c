import QueryGuard.Proofs.Time.Grammar

/-!
# `QueryGuard.Proofs.Time.Pattern`: durations as a pattern of optional groups

A duration can be matched against a pattern: a group for each unit, the larger units
first, and every group may be missing. A group is a row of digits and the symbol of its
unit. All groups start alike and `m` starts like `ms`, so that a matcher has to try: it
takes digits for a group, the most of them first, and gives them back where the symbol
or the rest of the pattern does not follow (`Duration.groups?`).

The scanner never gives anything back. `Duration.components?_eq_groups?` says that it
finds what the pattern matches, in every text but the empty one, which the pattern
matches without any group. The order in which the pattern tries its ways does not
matter for this, since a text is a duration in one way at most.

`Duration.valid_iff_composes` brings the three together: the texts that are read as
durations, those that the grammar makes, and those that the pattern matches.
-/

set_option autoImplicit false

namespace QueryGuard.Duration

/-- The ways to take digits off a text, the most digits first. -/
def digitRuns : List Char → List (List Nat × List Char)
  | [] => []
  | c :: rest =>
    match Text.digitValue? c with
    | none => []
    | some d => (digitRuns rest).map (fun run => (d :: run.1, run.2)) ++ [([d], rest)]

/-- The components that a text has if the groups of the units match all of it. Each
group is tried before it is left out. -/
def groups? : List TimeUnit → List Char → Option (List Component)
  | [], cs => if cs = [] then some [] else none
  | u :: units, cs =>
    ((digitRuns cs).findSome? fun run => do
      let rest ← run.2.dropPrefix? u.symbol.toList
      let others ← groups? units rest
      return ⟨run.1, u⟩ :: others).or (groups? units cs)

/-- Some digits are taken, and what is left stands behind them. -/
theorem mem_digitRuns_iff {cs : List Char} {values : List Nat} {rest : List Char} :
    (values, rest) ∈ digitRuns cs ↔
      ∃ digits, digits ≠ [] ∧ Text.Digits digits values ∧ cs = digits ++ rest := by
  induction cs generalizing values with
  | nil =>
    refine iff_of_false nofun ?_
    rintro ⟨digits, hsome, -, hnil⟩
    exact hsome (List.append_eq_nil_iff.1 hnil.symm).1
  | cons c tail ih =>
    unfold digitRuns
    cases hc : Text.digitValue? c with
    | none =>
      refine iff_of_false nofun ?_
      rintro ⟨digits, hsome, hdigits, heq⟩
      obtain ⟨d, digits, rfl⟩ := List.exists_cons_of_ne_nil hsome
      cases (List.cons.inj heq).1
      obtain ⟨value, _, hd, -, -⟩ := List.forall₂_cons_left_iff.1 hdigits
      cases hc.symm.trans hd
    | some d =>
      rw [List.mem_append, List.mem_map, List.mem_singleton]
      constructor
      · rintro (⟨run, hrun, heq⟩ | heq)
        · cases heq
          obtain ⟨digits, -, hdigits, htail⟩ := ih.1 hrun
          exact ⟨c :: digits, List.cons_ne_nil _ _, .cons hc hdigits, congrArg (c :: ·) htail⟩
        · cases heq
          exact ⟨[c], List.cons_ne_nil _ _, .cons hc .nil, rfl⟩
      · rintro ⟨digits, hsome, hdigits, heq⟩
        obtain ⟨first, digits, rfl⟩ := List.exists_cons_of_ne_nil hsome
        obtain ⟨rfl, htail⟩ := List.cons.inj heq
        obtain ⟨value, values, hd, hothers, rfl⟩ := List.forall₂_cons_left_iff.1 hdigits
        cases hc.symm.trans hd
        -- The run ends with its first digit, or it goes on in the rest.
        by_cases hend : digits = []
        · subst hend
          cases hothers
          exact .inr (by rw [htail]; rfl)
        · exact .inl ⟨(values, rest), ih.2 ⟨digits, hend, hothers, htail⟩, rfl⟩

/-- Dropping a prefix leaves what stood behind it. -/
theorem dropPrefix?_eq_some_iff {cs symbol rest : List Char} :
    cs.dropPrefix? symbol = some rest ↔ cs = symbol ++ rest := by
  rw [List.dropPrefix?_eq_some_iff]
  constructor
  · rintro ⟨front, rfl, heq⟩
    rw [eq_of_beq heq]
  · rintro rfl
    exact ⟨symbol, rfl, beq_self_eq_true _⟩

/-- A match is a row of components that the text is written as, with units among those
of the groups and in their order. -/
theorem spells_of_groups? {units : List TimeUnit} {cs : List Char}
    {components : List Component} (h : groups? units cs = some components) :
    Spells components cs ∧ (components.map Component.unit).Sublist units := by
  -- On the units that may still come. Each group is taken or skipped.
  induction units generalizing cs components with
  | nil =>
    unfold groups? at h
    split at h
    · next hnil =>
      cases h
      rw [hnil]
      exact ⟨.nil, List.Sublist.refl _⟩
    · cases h
  | cons u units ih =>
    unfold groups? at h
    rcases Option.or_eq_some_iff.1 h with htaken | ⟨-, hskipped⟩
    · obtain ⟨⟨values, behind⟩, hrun, hgroup⟩ := List.exists_of_findSome?_eq_some htaken
      obtain ⟨rest, hrest, hmore⟩ := Option.bind_eq_some_iff.1 hgroup
      obtain ⟨others, hothers, heq⟩ := Option.bind_eq_some_iff.1 hmore
      cases heq
      obtain ⟨digits, hsome, hdigits, rfl⟩ := mem_digitRuns_iff.1 hrun
      obtain ⟨hspells, hsub⟩ := ih hothers
      refine ⟨?_, hsub.cons_cons u⟩
      have hbehind : behind = u.symbol.toList ++ rest := dropPrefix?_eq_some_iff.1 hrest
      rw [hbehind]
      exact Spells.cons (c := ⟨values, u⟩) hdigits hsome hspells
    · obtain ⟨hspells, hsub⟩ := ih hskipped
      exact ⟨hspells, hsub.cons u⟩

/-- What is written as components with such units is matched in some way. -/
theorem isSome_groups? {units : List TimeUnit} {cs : List Char}
    {components : List Component} (h : Spells components cs)
    (hsub : (components.map Component.unit).Sublist units) : (groups? units cs).isSome := by
  -- On the units as well. The spelling decides for each group whether it is taken, and some
  -- choice succeeds if that one does.
  induction units generalizing cs components with
  | nil =>
    cases List.map_eq_nil_iff.1 (List.sublist_nil.1 hsub)
    cases h
    rfl
  | cons u units ih =>
    unfold groups?
    rw [Option.isSome_or, Bool.or_eq_true]
    rcases List.sublist_cons_iff.1 hsub with hskip | ⟨taken, hunits, htaken⟩
    · exact .inr (ih h hskip)
    · cases h with
      | nil => cases hunits
      | @cons digits c others text amount begun hothers =>
        obtain ⟨rfl, rfl⟩ := List.cons.inj hunits
        obtain ⟨found, hfound⟩ := Option.isSome_iff_exists.1 (ih hothers htaken)
        refine .inl (List.findSome?_isSome_iff.2 ⟨(c.digits, c.unit.symbol.toList ++ text), ?_, ?_⟩)
        · exact mem_digitRuns_iff.2 ⟨digits, begun, amount, rfl⟩
        · simp only [dropPrefix?_eq_some_iff.2 rfl, hfound, Option.bind_eq_bind, Option.bind_some]
          rfl

/-- The scanner finds in a text what the pattern matches. -/
theorem components?_eq_groups? {cs : List Char} (hcs : cs ≠ []) :
    components? cs = groups? TimeUnit.all cs := by
  -- What either of them finds is a row in order that the text is written as.
  have hread {components : List Component} (hspells : Spells components cs)
      (hordered : Ordered components) : components? cs = some components := by
    have hsome : components ≠ [] := by
      rintro rfl
      cases hspells
      exact hcs rfl
    unfold components?
    rw [scan_of_spells hspells hsome]
    exact if_pos hordered
  cases hgroups : groups? TimeUnit.all cs with
  | some components =>
    obtain ⟨hspells, hsub⟩ := spells_of_groups? hgroups
    have hall : TimeUnit.all.Pairwise fun u v => u.rank < v.rank := by decide
    have hunits : (components.map Component.unit).Pairwise fun u v => u.rank < v.rank :=
      hall.sublist hsub
    exact hread hspells (List.Pairwise.of_map Component.unit (fun _ _ hlt => hlt) hunits)
  | none =>
    refine Option.eq_none_iff_forall_ne_some.2 fun components h => ?_
    obtain ⟨found, hscan, hkept⟩ := Option.bind_eq_some_iff.1 h
    split at hkept
    · next hordered =>
      cases hkept
      have hsub := TimeUnit.sublist_all (List.pairwise_map.2 hordered)
      have hsome := isSome_groups? (spells_of_scan hscan).1 hsub
      rw [hgroups] at hsome
      cases hsome
    · cases hkept

/-- Two digits are given back here: the first group takes them before it turns out that
its symbol does not follow. -/
example : groups? TimeUnit.all ['1', '2', 'm', 's'] = some [⟨[1, 2], .millisecond⟩] := by decide

/-! ### Durations -/

/-- What a text composes is what the pattern matches in it. -/
theorem Composes.groups?_eq {text : String} {pieces : List Piece} (h : Composes text pieces) :
    groups? TimeUnit.all (Text.trim text.toList) = some (pieces.map Piece.component) := by
  have hread : components? (Text.trim text.toList) = some (pieces.map Piece.component) :=
    components?_of_writes h.writes
  have hsome : Text.trim text.toList ≠ [] := by
    intro hnil
    rw [hnil] at hread
    cases hread
  rw [← components?_eq_groups? hsome, hread]

/-- Durations are the texts of the grammar: a text is refused as none exactly if it is
no row of pieces. A text that is one is so in one way only, the pattern matches the same
row, and the seconds that are read are those of each unit in turn, as often as the number
of its piece says, or not at all without a piece. -/
theorem valid_iff_composes (text : String) :
    (parse (some text) = .error (.invalidDuration (some text)) ↔
        ¬ ∃ pieces, Composes text pieces) ∧
      ∀ pieces, Composes text pieces →
        (∀ others, Composes text others → others = pieces) ∧
          groups? TimeUnit.all (Text.trim text.toList) = some (pieces.map Piece.component) ∧
          parse (some text) =
            sumOf (amountOf pieces) Double.zero TimeUnit.all >>= ofSeconds text := by
  refine ⟨⟨?_, ?_⟩, fun pieces h => ⟨fun _ hother => h.unique hother, h.groups?_eq, ?_⟩⟩
  · rintro herror ⟨pieces, h⟩
    exact h.parse_ne herror
  · intro hnone
    have hread : components? (Text.trim text.toList) = none := by
      refine Option.eq_none_iff_forall_ne_some.2 fun components hsome => ?_
      obtain ⟨pieces, h, -⟩ := components?_eq_some_iff.1 hsome
      exact hnone ⟨pieces, h⟩
    unfold parse
    simp only [Option.getD_some, hread]
  · rw [h.writes.parse_eq, h.addSeconds_eq]

/-- A minute and thirty milliseconds, whose units share a letter. -/
def minuteAndMillis : List Piece := [⟨['1'], .minute⟩, ⟨['3', '0'], .millisecond⟩]

/-- Blanks before the first piece are part of the grammar. -/
theorem composes_minuteAndMillis : Composes " 1m30ms" minuteAndMillis where
  concatenation := by decide
  inhabited := List.cons_ne_nil _ _
  numbered := by
    intro p hp
    rcases List.mem_pair.1 hp with rfl | rfl
    · exact ⟨List.cons_ne_nil _ _, List.all_eq_true.1 (by decide)⟩
    · exact ⟨List.cons_ne_nil _ _, List.all_eq_true.1 (by decide)⟩
  ordered := by decide

/-- Their total is small enough to come out exactly. -/
theorem withinGrid_minuteAndMillis : WithinGrid (minuteAndMillis.map Piece.component) where
  readable := by decide
  coarse hwhole := absurd ⟨_, List.mem_cons_of_mem _ List.mem_cons_self, rfl⟩ hwhole
  fine _ := by decide

/-- The letter that they share is read in one way only. -/
theorem valid_minuteAndMillis :
    Composes " 1m30ms" minuteAndMillis ∧
      (∀ others, Composes " 1m30ms" others → others = minuteAndMillis) ∧
      parse (some " 1m30ms") = sumOf (amountOf minuteAndMillis) Double.zero TimeUnit.all >>=
        ofSeconds " 1m30ms" ∧
      parse (some " 1m30ms") = .ok ⟨60030000⟩ := by
  obtain ⟨hunique, -, hsum⟩ := (valid_iff_composes " 1m30ms").2 _ composes_minuteAndMillis
  exact ⟨composes_minuteAndMillis, hunique, hsum,
    parse_of_withinGrid composes_minuteAndMillis.writes withinGrid_minuteAndMillis⟩

end QueryGuard.Duration
