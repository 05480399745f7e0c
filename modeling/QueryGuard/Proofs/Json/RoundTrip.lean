import QueryGuard.Proofs.Json.Entries
import QueryGuard.Proofs.Json.Scalar

/-!
# `QueryGuard.Proofs.Json.RoundTrip`: a document that was written is read back

Not every document survives being written and read: a whole number may have too
many digits to be read, and of two fields of one name only the last is kept.
`Plain` leaves these out, and fractions too. A plain document is read back as it
was, on one line or on many, as ASCII or not, and with blanks after it
(`decode_encode_append`, and `decodeBody_encode` for the body of a message).

The reader runs on steps, and has at least as many as there are characters. Each
value, item and field takes one, and each is written in one character at least;
`ReadsBack` is the induction hypothesis that counts them.
-/

set_option autoImplicit false

namespace QueryGuard

namespace Fields

variable {κ α : Type} [DecidableEq κ]

/-- A field of a new name goes to the end. -/
theorem set_of_not_mem {fields : List (κ × α)} {name : κ} (h : name ∉ fields.map Prod.fst)
    (value : α) : Fields.set fields name value = fields ++ [(name, value)] := by
  induction fields with
  | nil => rfl
  | cons field rest ih =>
    obtain ⟨n, v⟩ := field
    rw [List.map_cons, List.mem_cons, not_or] at h
    obtain ⟨hne, hrest⟩ := h
    rw [Fields.set, if_neg (Ne.symm hne), ih hrest]
    rfl

/-- Settings of distinct names stay as they are. -/
theorem ofList_of_nodup {settings : List (κ × α)} (h : (settings.map Prod.fst).Nodup) :
    Fields.ofList settings = settings := by
  -- The settings are taken up one by one behind those before them.
  have htake : ∀ before : List (κ × α), (before.map Prod.fst ++ settings.map Prod.fst).Nodup →
      settings.foldl (fun fields s => Fields.set fields s.1 s.2) before = before ++ settings := by
    induction settings with
    | nil => exact fun before _ => (List.append_nil before).symm
    | cons setting rest ih =>
      intro before hnodup
      obtain ⟨name, value⟩ := setting
      have hnew : name ∉ before.map Prod.fst := by
        intro hmem
        exact (List.nodup_append.1 hnodup).2.2 name hmem name List.mem_cons_self rfl
      have hrest : ((before ++ [(name, value)]).map Prod.fst ++ rest.map Prod.fst).Nodup := by
        rw [List.map_append, List.append_assoc]
        exact hnodup
      rw [List.foldl_cons, set_of_not_mem hnew, ih (List.nodup_cons.1 h).2 _ hrest,
        List.append_assoc]
      rfl
  exact htake [] h

end Fields

namespace Json

/-- A document without fractions, without whole numbers of too many digits, and
without a name that stands twice in one object. The forms for texts with halves of pairs
hold such texts. -/
inductive Plain : Json → Prop where
  | null : Plain .null
  | bool (b : Bool) : Plain (.bool b)
  | string (s : String) : Plain (.string s)
  | halved {w : Wording} (h : w.plain? = none) : Plain (.halved w)
  | int {n : Int} (h : (Nat.toDigits 10 n.natAbs).length ≤ Numeral.maxDigits) :
    Plain (.number (.int n))
  | array {items : List Json} (h : ∀ j ∈ items, Plain j) : Plain (.array items)
  | object {fields : Fields Json} (distinct : (fields.map Prod.fst).Nodup)
    (h : ∀ field ∈ fields, Plain field.2) : Plain (.object fields)
  | mixed {entries : List (Wording × Json)} (distinct : (entries.map Prod.fst).Nodup)
    (halved : ∃ e ∈ entries, e.1.plain? = none) (h : ∀ e ∈ entries, Plain e.2) :
    Plain (.mixed entries)

/-- The document of a text is plain, whatever the text holds. -/
theorem plain_ofWording (w : Wording) : Plain (ofWording w) := by
  cases h : w.plain? with
  | some s =>
    rw [← Wording.ofString_of_plain? h, ofWording_ofString]
    exact .string s
  | none =>
    rw [ofWording_of_halved h]
    exact .halved h

/-- The entries of fields have no halves in their names. -/
theorem ofEntries_of_halved {entries : List (Wording × Json)}
    (h : ∃ e ∈ entries, e.1.plain? = none) : ofEntries entries = .mixed entries := by
  unfold ofEntries
  cases hmap : entries.mapM fun e => e.1.plain?.map (·, e.2) with
  | none => rfl
  | some fields =>
    obtain ⟨e, he, hhalved⟩ := h
    rw [← entriesOf_of_mapM hmap] at he
    obtain ⟨f, -, rfl⟩ := List.mem_map.1 he
    cases hhalved.symm.trans (Wording.plain?_ofString f.1)

/-! ### One form for all objects -/

/-- Fields are written as entries are. -/
theorem writeFields_eq (layout : Layout) (depth : Nat) (fields : Fields Json) :
    writeFields layout depth fields = writeEntries layout depth (entriesOf fields) := by
  induction fields with
  | nil => rfl
  | cons field rest ih =>
    obtain ⟨name, v⟩ := field
    show writeFields layout depth ((name, v) :: rest) =
      writeEntries layout depth ((↑name, v) :: entriesOf rest)
    rw [writeFields, writeEntries, ih]

/-- An object is written by its entries. -/
theorem write_object (layout : Layout) (depth : Nat) (fields : Fields Json) :
    write layout depth (.object fields) = write layout depth (.mixed (entriesOf fields)) := by
  cases fields with
  | nil => rfl
  | cons field rest =>
    obtain ⟨name, v⟩ := field
    show write layout depth (.object ((name, v) :: rest)) =
      write layout depth (.mixed ((↑name, v) :: entriesOf rest))
    rw [write, write, writeFields_eq]

namespace Decoder

/-! ### What stands between the tokens -/

/-- What is no blank is not skipped. -/
theorem skip_cons {c : Char} (hc : isSpace c = false) (cs : List Char) :
    skip (c :: cs) = c :: cs := by
  unfold skip
  rw [List.dropWhile_cons, hc]
  rfl

/-- Blanks are skipped. -/
theorem skip_spaces {spaces : List Char} (h : ∀ c ∈ spaces, isSpace c = true) (cs : List Char) :
    skip (spaces ++ cs) = skip cs :=
  List.dropWhile_append_of_pos h

/-- A line break and its indentation are blanks. -/
theorem isSpace_of_mem_lineBreak {depth : Nat} {c : Char} (h : c ∈ lineBreak depth) :
    isSpace c = true := by
  rcases List.mem_cons.1 h with rfl | h
  · rfl
  · rw [(List.mem_replicate.1 h).2]
    rfl

/-- What stands inside a bracket is skipped. -/
theorem skip_edge (layout : Layout) (depth : Nat) (cs : List Char) :
    skip (layout.edge depth ++ cs) = skip cs := by
  unfold Layout.edge
  split
  · exact skip_spaces (fun _ => isSpace_of_mem_lineBreak) cs
  · rfl

/-- Between two items stands a comma, and at least one blank after it. -/
theorem separator_eq (layout : Layout) (depth : Nat) :
    ∃ blanks, layout.separator depth = ',' :: blanks ∧ 0 < blanks.length ∧
      ∀ cs, skip (blanks ++ cs) = skip cs := by
  unfold Layout.separator
  split
  · exact ⟨lineBreak depth, rfl, Nat.succ_pos _, skip_spaces fun _ => isSpace_of_mem_lineBreak⟩
  · exact ⟨[' '], rfl, Nat.one_pos, fun _ => rfl⟩

/-- A number may end with the text. -/
theorem ends_nil : Ends [] := nofun

/-- A number ends where a document goes on. -/
theorem ends_cons {c : Char} (hc : c ∈ [',', ']', '\x7d', ' ', '\t', '\n', '\r']) (cs : List Char) :
    Ends (c :: cs) := by
  intro d hd
  cases hd
  simp only [List.mem_cons, List.not_mem_nil, or_false] at hc
  rcases hc with rfl | rfl | rfl | rfl | rfl | rfl | rfl <;> decide

/-- Before the last character of an array or an object a number ends. -/
theorem ends_edge (layout : Layout) (depth : Nat) {c : Char} (hc : c ∈ [']', '\x7d'])
    (cs : List Char) : Ends (layout.edge depth ++ c :: cs) := by
  unfold Layout.edge
  split
  · exact ends_cons (by decide) _
  · refine ends_cons ?_ _
    simp only [List.mem_cons, List.not_mem_nil, or_false] at hc
    rcases hc with rfl | rfl <;> decide

/-! ### One step of the reader -/

section
variable {fuel : Nat} {c : Char} {cs rest more after : List Char} {name : Wording} {item v : Json}

/-- What starts with neither a quote nor a bracket is read without them. -/
theorem value_scalar (hquote : c ≠ '"') (harray : c ≠ '[') (hobject : c ≠ '\x7b') :
    value (fuel + 1) (c :: cs) = scalar (c :: cs) := by
  rw [value]
  · exact fun _ h => hquote (List.cons.inj h).1
  · exact fun _ h => harray (List.cons.inj h).1
  · exact fun _ h => hobject (List.cons.inj h).1

/-- A quote starts a text. -/
theorem value_string :
    value (fuel + 1) ('"' :: cs) = (string cs).map fun (w, rest) => (.ofWording w, rest) := by
  rw [value]
  rfl

/-- A bracket with something in it starts an array. -/
theorem value_array (hskip : skip rest = c :: cs) (hc : c ≠ ']') :
    value (fuel + 1) ('[' :: rest) =
      (elements fuel (c :: cs)).map fun (items, rest) => (.array items, rest) := by
  rw [value, hskip]
  split
  · next heq => exact absurd (List.cons.inj heq).1 hc
  · rfl

/-- A brace with a name in it starts an object. -/
theorem value_object (hskip : skip rest = '"' :: cs) :
    value (fuel + 1) ('\x7b' :: rest) =
      (members fuel ('"' :: cs)).map fun (entries, rest) =>
        (.ofEntries (Fields.ofList entries), rest) := by
  rw [value, hskip]
  rfl

/-- The last item stands before the closing bracket. -/
theorem elements_last (hitem : value fuel cs = .ok (item, rest)) (hrest : skip rest = ']' :: after) :
    elements (fuel + 1) cs = .ok ([item], after) := by
  rw [elements, hitem]
  simp only [bind, Except.bind, hrest]
  rfl

/-- Behind a comma there are more items. -/
theorem elements_more (hitem : value fuel cs = .ok (item, rest)) (hrest : skip rest = ',' :: after) :
    elements (fuel + 1) cs =
      (elements fuel (skip after)).map fun (items, rest) => (item :: items, rest) := by
  rw [elements, hitem]
  simp only [bind, Except.bind, hrest]
  rfl

/-- The last field stands before the closing brace. -/
theorem members_last (hname : string cs = .ok (name, ':' :: rest))
    (hv : value fuel (skip rest) = .ok (v, more)) (hmore : skip more = '\x7d' :: after) :
    members (fuel + 1) ('"' :: cs) = .ok ([(name, v)], after) := by
  have hcolon : skip (':' :: rest) = ':' :: rest := rfl
  rw [members, hname]
  simp only [bind, Except.bind, hcolon, hv, hmore]
  rfl

/-- Behind a comma there are more fields. -/
theorem members_more (hname : string cs = .ok (name, ':' :: rest))
    (hv : value fuel (skip rest) = .ok (v, more)) (hmore : skip more = ',' :: after) :
    members (fuel + 1) ('"' :: cs) =
      (members fuel (skip after)).map fun (entries, rest) => ((name, v) :: entries, rest) := by
  have hcolon : skip (':' :: rest) = ':' :: rest := rfl
  rw [members, hname]
  simp only [bind, Except.bind, hcolon, hv, hmore]
  rfl

end

/-! ### Arrays, objects, documents -/

/-- How a document starts that was written: not with a blank, and not as an
array or an object ends. -/
def Starts (cs : List Char) : Prop :=
  ∃ c rest, cs = c :: rest ∧ isSpace c = false ∧ c ≠ ']' ∧ c ≠ byteOrderMark

/-- What starts a document is not skipped. -/
theorem Starts.skip_append {cs : List Char} (h : Starts cs) (rest : List Char) :
    skip (cs ++ rest) = cs ++ rest := by
  obtain ⟨c, others, rfl, hc, -⟩ := h
  exact skip_cons hc _

/-- A whole number starts with a digit or a minus, and so with no other
character. -/
theorem exists_toString_eq_cons (n : Int) :
    ∃ c rest, (toString n).toList = c :: rest ∧
      ∀ d, d ≠ '-' → Text.isAsciiDigit d = false → c ≠ d := by
  cases n with
  | ofNat m =>
    obtain ⟨c, rest, hdigits⟩ : ∃ c rest, Nat.toDigits 10 m = c :: rest :=
      List.exists_cons_of_ne_nil Nat.toDigits_ne_nil
    have hc : Text.isAsciiDigit c = true :=
      Text.isAsciiDigit_of_mem_toDigits (hdigits ▸ List.mem_cons_self)
    refine ⟨c, rest, (Text.toList_toString_ofNat m).trans hdigits, fun d _ hd => ?_⟩
    rintro rfl
    rw [hd] at hc
    cases hc
  | negSucc m => exact ⟨'-', _, Text.toList_toString_negSucc m, fun d hd _ => hd.symm⟩

/-- A number starts with a digit or a sign. -/
theorem starts_toString (n : Int) : Starts (toString n).toList := by
  obtain ⟨c, rest, htext, hne⟩ := exists_toString_eq_cons n
  refine ⟨c, rest, htext, ?_, hne _ (by decide) rfl, hne _ (by decide) rfl⟩
  have hspace : c ≠ ' ' := hne _ (by decide) rfl
  have htab : c ≠ '\t' := hne _ (by decide) rfl
  have hline : c ≠ '\n' := hne _ (by decide) rfl
  have hreturn : c ≠ '\r' := hne _ (by decide) rfl
  simp [isSpace, hspace, htab, hline, hreturn]

/-- A document starts with no blank. -/
theorem starts_write {j : Json} (h : Plain j) (layout : Layout) (depth : Nat) :
    Starts (write layout depth j) := by
  -- One case per kind of document: each begins with a character of its own that is no
  -- blank.
  cases h with
  | null => exact ⟨'n', _, rfl, rfl, by decide, by decide⟩
  | bool b =>
    cases b with
    | true => exact ⟨'t', _, rfl, rfl, by decide, by decide⟩
    | false => exact ⟨'f', _, rfl, rfl, by decide, by decide⟩
  | string s => exact ⟨'"', _, rfl, rfl, by decide, by decide⟩
  | int h => exact starts_toString _
  | @array items h => cases items <;> exact ⟨'[', _, rfl, rfl, by decide, by decide⟩
  | halved h => exact ⟨'"', _, rfl, rfl, by decide, by decide⟩
  | @object fields distinct h => cases fields <;> exact ⟨'\x7b', _, rfl, rfl, by decide, by decide⟩
  | @mixed entries => cases entries <;> exact ⟨'\x7b', _, rfl, rfl, by decide, by decide⟩

/-- A document is read back, if nothing goes on with it and there are at least
as many steps as it has characters. -/
def ReadsBack (layout : Layout) (depth : Nat) (j : Json) : Prop :=
  ∀ fuel after, Ends after → (write layout depth j).length ≤ fuel →
    value fuel (write layout depth j ++ after) = .ok (j, after)

section
variable {layout : Layout} {depth outer fuel : Nat} {after : List Char}

/-- The items of an array are read up to the bracket that closes it. -/
theorem elements_writeItems {item : Json} {rest : List Json}
    (hplain : ∀ j ∈ item :: rest, Plain j) (hread : ∀ j ∈ item :: rest, ReadsBack layout depth j)
    (hfuel : (write layout depth item).length + (writeItems layout depth rest).length < fuel) :
    elements fuel (write layout depth item ++ (writeItems layout depth rest ++
      (layout.edge outer ++ ']' :: after))) = .ok (item :: rest, after) := by
  obtain ⟨steps, rfl⟩ := Nat.exists_eq_add_one_of_ne_zero (Nat.ne_zero_of_lt hfuel)
  have hitem : ReadsBack layout depth item := hread item List.mem_cons_self
  induction rest generalizing item steps with
  | nil =>
    have hends : Ends (layout.edge outer ++ ']' :: after) := ends_edge layout outer (by decide) after
    refine elements_last (hitem steps _ hends (by omega)) ?_
    show skip (layout.edge outer ++ ']' :: after) = _
    rw [skip_edge, skip_cons rfl]
  | cons next rest ih =>
    obtain ⟨blanks, hseparator, hpos, hskip⟩ := separator_eq layout depth
    have hwrite : writeItems layout depth (next :: rest) =
        ',' :: (blanks ++ (write layout depth next ++ writeItems layout depth rest)) := by
      rw [writeItems, hseparator, List.append_assoc, List.cons_append]
    rw [hwrite] at hfuel ⊢
    simp only [List.length_cons, List.length_append] at hfuel
    -- An item takes one step of its own, and the comma in front of it is a character more.
    obtain ⟨more, rfl⟩ := Nat.exists_eq_add_one_of_ne_zero (show steps ≠ 0 by omega)
    have hrest := ih (fun j hj => hplain j (List.mem_cons_of_mem item hj))
      (fun j hj => hread j (List.mem_cons_of_mem item hj)) more (by omega)
      (hread next (List.mem_cons_of_mem item List.mem_cons_self))
    have hnext : Starts (write layout depth next) :=
      starts_write (hplain next (List.mem_cons_of_mem item List.mem_cons_self)) layout depth
    have hends (cs : List Char) : Ends (',' :: cs) := ends_cons (by decide) cs
    simp only [List.cons_append, List.append_assoc]
    rw [elements_more (hitem _ _ (hends _) (by omega)) (skip_cons rfl _), hskip, hnext.skip_append,
      hrest]
    rfl

/-- A text is written between quotes. -/
theorem writeText_append (ascii : Bool) (w : Wording) (rest : List Char) :
    writeText ascii w ++ rest = '"' :: (w.signs.flatMap (escapedSign ascii) ++ '"' :: rest) := by
  unfold writeText
  rw [List.append_assoc]
  rfl

/-- The value of a field is read behind its colon. -/
theorem value_behind_colon {v : Json} {cs : List Char} (hplain : Plain v)
    (hread : ReadsBack layout depth v) (hends : Ends cs)
    (hfuel : (write layout depth v).length ≤ fuel) :
    value fuel (skip (' ' :: (write layout depth v ++ cs))) = .ok (v, cs) := by
  have hskip : skip (' ' :: (write layout depth v ++ cs)) = write layout depth v ++ cs :=
    (starts_write hplain layout depth).skip_append cs
  rw [hskip]
  exact hread fuel cs hends hfuel

/-- The entries of an object are read up to the brace that closes it. -/
theorem members_writeEntries {name : Wording} {v : Json} {rest : List (Wording × Json)}
    (hplain : ∀ e ∈ (name, v) :: rest, Plain e.2)
    (hread : ∀ e ∈ (name, v) :: rest, ReadsBack layout depth e.2)
    (hfuel : (write layout depth v).length + (writeEntries layout depth rest).length < fuel) :
    members fuel (writeText layout.ascii name ++ (':' :: ' ' :: (write layout depth v ++
      (writeEntries layout depth rest ++ (layout.edge outer ++ '\x7d' :: after))))) =
        .ok ((name, v) :: rest, after) := by
  obtain ⟨steps, rfl⟩ := Nat.exists_eq_add_one_of_ne_zero (Nat.ne_zero_of_lt hfuel)
  have hv : Plain v := hplain (name, v) List.mem_cons_self
  have hvRead : ReadsBack layout depth v := hread (name, v) List.mem_cons_self
  -- On the entries behind the first. One unit of fuel pays for each entry, and the bound on
  -- the fuel is by the text that is left.
  induction rest generalizing name v steps with
  | nil =>
    have hends : Ends (layout.edge outer ++ '\x7d' :: after) :=
      ends_edge layout outer (by decide) after
    -- The last entry is followed by the closing edge, which ends its value.
    rw [writeText_append]
    refine members_last (string_written layout.ascii name)
      (value_behind_colon hv hvRead hends (by omega)) ?_
    show skip (layout.edge outer ++ '\x7d' :: after) = _
    rw [skip_edge, skip_cons rfl]
  | cons next rest ih =>
    obtain ⟨nextName, nextValue⟩ := next
    obtain ⟨blanks, hseparator, hpos, hskip⟩ := separator_eq layout depth
    have hwrite : writeEntries layout depth ((nextName, nextValue) :: rest) =
        ',' :: (blanks ++ (writeText layout.ascii nextName ++ (':' :: ' ' ::
          (write layout depth nextValue ++ writeEntries layout depth rest)))) := by
      rw [writeEntries, hseparator]
      simp only [List.append_assoc, List.cons_append, List.nil_append]
    rw [hwrite] at hfuel ⊢
    simp only [List.length_cons, List.length_append] at hfuel
    -- A comma ends the value here, and the rest is read by the hypothesis.
    obtain ⟨more, rfl⟩ := Nat.exists_eq_add_one_of_ne_zero (show steps ≠ 0 by omega)
    have hrest := ih (fun e he => hplain e (List.mem_cons_of_mem (name, v) he))
      (fun e he => hread e (List.mem_cons_of_mem (name, v) he)) more (by omega)
      (hplain _ (List.mem_cons_of_mem (name, v) List.mem_cons_self))
      (hread _ (List.mem_cons_of_mem (name, v) List.mem_cons_self))
    have hends (cs : List Char) : Ends (',' :: cs) := ends_cons (by decide) cs
    have hquote (cs : List Char) : skip (writeText layout.ascii nextName ++ cs) =
        writeText layout.ascii nextName ++ cs := skip_cons rfl _
    rw [writeText_append]
    simp only [List.cons_append, List.append_assoc]
    rw [members_more (string_written layout.ascii name)
      (value_behind_colon hv hvRead (hends _) (by omega)) (skip_cons rfl _), hskip, hquote, hrest]
    rfl

/-- A text is read back, whatever it holds. -/
theorem value_writeText (fuel : Nat) (ascii : Bool) (w : Wording) (after : List Char) :
    value (fuel + 1) (writeText ascii w ++ after) = .ok (.ofWording w, after) := by
  rw [writeText_append, value_string, string_written]
  rfl

/-- An object is read back as the object of its entries. -/
theorem value_writeMixed {entries : List (Wording × Json)}
    (distinct : (entries.map Prod.fst).Nodup) (hplain : ∀ e ∈ entries, Plain e.2)
    (hread : ∀ e ∈ entries, ReadsBack layout (depth + 1) e.2)
    (hfuel : (write layout depth (.mixed entries)).length ≤ fuel + 1) :
    value (fuel + 1) (write layout depth (.mixed entries) ++ after) =
      .ok (.ofEntries entries, after) := by
  cases entries with
  | nil => rfl
  | cons entry rest =>
    obtain ⟨name, v⟩ := entry
    simp only [write, List.length_append, List.length_cons] at hfuel
    have hentries : members fuel (writeText layout.ascii name ++ (':' :: ' ' ::
        (write layout (depth + 1) v ++ (writeEntries layout (depth + 1) rest ++
          (layout.edge depth ++ '\x7d' :: after))))) = .ok ((name, v) :: rest, after) :=
      members_writeEntries hplain hread (by omega)
    simp only [write, List.cons_append, List.append_assoc, List.nil_append]
    rw [writeText_append] at hentries ⊢
    rw [value_object ((skip_edge _ _ _).trans (skip_cons rfl _)), hentries]
    -- The reader gathers the entries by their names, and loses none where they are distinct.
    show Except.ok (Json.ofEntries (Fields.ofList ((name, v) :: rest)), after) = _
    rw [Fields.ofList_of_nodup distinct]

end

/-- A text that is not empty leaves fuel for a step. -/
theorem exists_steps {cs : List Char} {fuel : Nat} (hcs : Starts cs) (hle : cs.length ≤ fuel) :
    ∃ steps, fuel = steps + 1 := by
  obtain ⟨c, rest, rfl, -⟩ := hcs
  exact Nat.exists_eq_add_one_of_ne_zero (Nat.ne_zero_of_lt hle)

/-- A plain document is read back. -/
theorem readsBack {j : Json} (h : Plain j) (layout : Layout) (depth : Nat) :
    ReadsBack layout depth j := by
  -- What is inside an array or an object is one level deeper, so the depth is left open.
  induction h generalizing depth with
  | null =>
    intro fuel after _ hfuel
    obtain ⟨steps, rfl⟩ := exists_steps (starts_write .null layout depth) hfuel
    exact value_scalar (by decide) (by decide) (by decide)
  | bool b =>
    intro fuel after _ hfuel
    obtain ⟨steps, rfl⟩ := exists_steps (starts_write (.bool b) layout depth) hfuel
    cases b with
    | true => exact value_scalar (by decide) (by decide) (by decide)
    | false => exact value_scalar (by decide) (by decide) (by decide)
  | string s =>
    intro fuel after _ hfuel
    obtain ⟨steps, rfl⟩ := exists_steps (starts_write (.string s) layout depth) hfuel
    have hread := value_writeText steps layout.ascii (s : Wording) after
    rw [ofWording_ofString] at hread
    exact hread
  | @halved w h =>
    intro fuel after _ hfuel
    obtain ⟨steps, rfl⟩ := exists_steps (starts_write (.halved h) layout depth) hfuel
    have hread := value_writeText steps layout.ascii w after
    rw [ofWording_of_halved h] at hread
    exact hread
  | @int n h =>
    intro fuel after hends hfuel
    obtain ⟨steps, rfl⟩ := exists_steps (starts_toString n) hfuel
    obtain ⟨c, rest, htext, hne⟩ := exists_toString_eq_cons n
    have hscalar := scalar_int n h hends
    show value (steps + 1) ((toString n).toList ++ after) = _
    rw [htext] at hscalar ⊢
    exact (value_scalar (hne _ (by decide) rfl) (hne _ (by decide) rfl)
      (hne _ (by decide) rfl)).trans hscalar
  | @array items h ih =>
    intro fuel after _ hfuel
    obtain ⟨steps, rfl⟩ := exists_steps (starts_write (.array h) layout depth) hfuel
    cases items with
    | nil => rfl
    | cons item rest =>
      simp only [write, List.length_append, List.length_cons] at hfuel
      have hitems : elements steps (write layout (depth + 1) item ++
          (writeItems layout (depth + 1) rest ++ (layout.edge depth ++ ']' :: after))) =
            .ok (item :: rest, after) :=
        elements_writeItems h (fun j hj => ih j hj (depth + 1)) (by omega)
      obtain ⟨c, others, hitem, hc, hbracket, -⟩ :=
        starts_write (h item List.mem_cons_self) layout (depth + 1)
      simp only [write, List.cons_append, List.append_assoc, List.nil_append]
      rw [hitem, List.cons_append] at hitems ⊢
      rw [value_array ((skip_edge _ _ _).trans (skip_cons hc _)) hbracket]
      exact congrArg (Except.map _) hitems
  | @object fields distinct h ih =>
    intro fuel after _ hfuel
    obtain ⟨steps, rfl⟩ := exists_steps (starts_write (.object distinct h) layout depth) hfuel
    rw [write_object] at hfuel ⊢
    rw [← ofEntries_entriesOf]
    exact value_writeMixed (nodup_names_entriesOf.2 distinct) (List.forall_mem_map.2 h)
      (List.forall_mem_map.2 fun f hf => ih f hf (depth + 1)) hfuel
  | @mixed entries distinct halved h ih =>
    intro fuel after _ hfuel
    obtain ⟨steps, rfl⟩ := exists_steps (starts_write (.mixed distinct halved h) layout depth) hfuel
    have hread : value (steps + 1) (write layout depth (.mixed entries) ++ after) =
        .ok (.ofEntries entries, after) :=
      value_writeMixed distinct h (fun e he => ih e he (depth + 1)) hfuel
    rw [ofEntries_of_halved halved] at hread
    exact hread

end Decoder

/-! ### Whole texts -/

section
variable {j : Json} {blanks : List Char}

/-- A number may end before blanks. -/
theorem Decoder.ends_of_isSpace (hblanks : ∀ c ∈ blanks, isSpace c = true) : Ends blanks := by
  cases blanks with
  | nil => exact ends_nil
  | cons c rest =>
    have hc := hblanks c List.mem_cons_self
    simp only [isSpace, Bool.or_eq_true, decide_eq_true_eq] at hc
    rcases hc with ((rfl | rfl) | rfl) | rfl <;> exact ends_cons (by decide) rest

/-- A plain document is read back, blanks behind it aside. -/
theorem ofChars?_write (h : Plain j) (layout : Layout)
    (hblanks : ∀ c ∈ blanks, Decoder.isSpace c = true) :
    ofChars? (write layout 0 j ++ blanks) = .ok j := by
  have hskip := (Decoder.starts_write h layout 0).skip_append blanks
  -- The reader allows itself two steps for each character.
  have hfuel : (write layout 0 j).length ≤ 2 * (write layout 0 j ++ blanks).length + 2 := by
    rw [List.length_append]
    omega
  have hread := Decoder.readsBack h layout 0 _ blanks (Decoder.ends_of_isSpace hblanks) hfuel
  have hend : Decoder.skip blanks = [] := by
    have hall := Decoder.skip_spaces hblanks []
    rwa [List.append_nil] at hall
  have hdocument : Decoder.document (write layout 0 j ++ blanks) = .ok j := by
    unfold Decoder.document
    rw [hskip, hread]
    simp only [bind, Except.bind, hend]
    rfl
  rw [ofChars?, hdocument]
  rfl

/-- A plain document is read back from its text, with blanks after
it or none. -/
theorem decode_encode_append (h : Plain j) (layout : Layout) {tail : String}
    (htail : ∀ c ∈ tail.toList, Decoder.isSpace c = true) :
    decode (encode layout j ++ tail) = .ok j := by
  have hread := ofChars?_write h layout htail
  obtain ⟨c, rest, hwrite, -, -, hmark⟩ := Decoder.starts_write h layout 0
  unfold decode encode
  rw [String.toList_append, String.toList_ofList]
  rw [hwrite, List.cons_append] at hread ⊢
  simp only [if_neg hmark, hread]

/-- The same holds of the body of a message. -/
theorem decodeBody_encode (h : Plain j) (layout : Layout) :
    decodeBody (encode layout j) = .ok j := by
  have hread := ofChars?_write h layout (show ∀ c ∈ [], Decoder.isSpace c = true from nofun)
  obtain ⟨c, rest, hwrite, -, -, hmark⟩ := Decoder.starts_write h layout 0
  unfold decodeBody encode
  rw [String.toList_ofList]
  rw [List.append_nil, hwrite] at hread
  rw [hwrite]
  simp only [if_neg hmark, hread]

end

end Json

end QueryGuard
