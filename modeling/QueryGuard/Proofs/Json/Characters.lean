import QueryGuard.Proofs.Json.RoundTrip

/-!
# `QueryGuard.Proofs.Json.Characters`: the characters of a document

What a text holds is up to whoever wrote the text: quotes, line breaks, characters of any
script. The document that the text is put into has few kinds of characters
(`Layout.Writes`). Each is a printable one of ASCII; or one from the delete character on,
where the layout does not ask for ASCII; or a line break, where the layout has several
lines.

`writes_of_mem_write` says so of every plain document. So a document that asks for ASCII
is ASCII (`Layout.Writes.toNat_lt`), and one that is on one line has no control
character below the blank (`Layout.Writes.le_toNat`).
-/

set_option autoImplicit false

namespace QueryGuard.Json

/-- A printable character of ASCII. -/
def IsGraphic (c : Char) : Prop := 0x20 ≤ c.toNat ∧ c.toNat < 0x7f

instance (c : Char) : Decidable (IsGraphic c) :=
  inferInstanceAs (Decidable (0x20 ≤ c.toNat ∧ c.toNat < 0x7f))

/-- The characters that a document in a layout consists of. -/
inductive Layout.Writes (layout : Layout) : Char → Prop where
  | graphic {c : Char} (h : IsGraphic c) : layout.Writes c
  | beyond {c : Char} (h : layout.ascii = false) (high : 0x7f ≤ c.toNat) : layout.Writes c
  | lineBreak (h : layout.indented = true) : layout.Writes '\n'

section
variable {layout : Layout} {depth : Nat} {c : Char} {cs : List Char}

/-- In ASCII alone nothing beyond ASCII is written. -/
theorem Layout.Writes.toNat_lt (h : layout.Writes c) (hascii : layout.ascii = true) :
    c.toNat < 0x80 := by
  cases h with
  | graphic h => exact Nat.lt_succ_of_lt h.2
  | beyond h => cases hascii.symm.trans h
  | lineBreak => decide

/-- Graphic characters are written in every layout. -/
theorem writes_of_graphic (h : ∀ c ∈ cs, IsGraphic c) : ∀ c ∈ cs, layout.Writes c :=
  fun c hc => .graphic (h c hc)

/-- Whether a given text is printable is computed along the text: as a statement about every
character it would be decided by trying them all. -/
theorem isGraphic_of_all (h : (cs.all fun c => decide (IsGraphic c)) = true) :
    ∀ c ∈ cs, IsGraphic c :=
  fun c hc => of_decide_eq_true (List.all_eq_true.1 h c hc)

/-- The same for a row of characters that is at hand. -/
theorem writes_of_all (h : (cs.all fun c => decide (IsGraphic c)) = true) :
    ∀ c ∈ cs, layout.Writes c :=
  writes_of_graphic (isGraphic_of_all h)

/-! ### Texts -/

/-- The digits of code units are graphic. -/
theorem isGraphic_digitChar {n : Nat} (h : n < 16) : IsGraphic (Nat.digitChar n) := by
  revert n
  decide

/-- So are rows of them. -/
theorem isGraphic_of_mem_hexDigits {width n : Nat} (h : c ∈ Text.hexDigits width n) :
    IsGraphic c := by
  induction width generalizing n with
  | zero => cases h
  | succ width ih =>
    rcases List.mem_append.1 h with h | h
    · exact ih h
    · rw [List.mem_singleton.1 h]
      exact isGraphic_digitChar (Nat.mod_lt n (by decide))

/-- The escape of a code unit is graphic. -/
theorem isGraphic_of_mem_unitEscape {n : Nat} (h : c ∈ unitEscape n) : IsGraphic c := by
  rcases List.mem_cons.1 h with rfl | h
  · decide
  · rcases List.mem_cons.1 h with rfl | h
    · decide
    · exact isGraphic_of_mem_hexDigits h

/-- The characters that have an escape of their own. -/
def namedEscapes : List Char := ['"', '\\', '\n', '\r', '\t', '\x08', '\x0c']

/-- An escape with a letter is graphic. -/
theorem isGraphic_of_mem_namedEscape (ascii : Bool) (hc : c ∈ namedEscapes) :
    ∀ d ∈ escapedChar ascii c, IsGraphic d := by
  have hall : (namedEscapes.all fun c =>
      (escapedChar ascii c).all fun d => decide (IsGraphic d)) = true := by
    cases ascii <;> decide
  exact isGraphic_of_all (List.all_eq_true.1 hall c hc)

/-- Whatever a character is, the layout writes what stands for it. -/
theorem writes_escapedChar (layout : Layout) (c : Char) :
    ∀ d ∈ escapedChar layout.ascii c, layout.Writes d := by
  -- The cases are those of the writer, in its order.
  by_cases hnamed : c ∈ namedEscapes
  · exact writes_of_graphic (isGraphic_of_mem_namedEscape layout.ascii hnamed)
  simp only [namedEscapes, List.mem_cons, List.not_mem_nil, or_false, not_or] at hnamed
  obtain ⟨hquote, hslash, hn, hr, ht, hb, hf⟩ := hnamed
  simp only [escapedChar, if_neg hquote, if_neg hslash, if_neg hn, if_neg hr, if_neg ht, if_neg hb,
    if_neg hf]
  by_cases hcontrol : c.toNat < 0x20
  · rw [if_pos hcontrol]
    exact writes_of_graphic fun _ => isGraphic_of_mem_unitEscape
  rw [if_neg hcontrol]
  by_cases hplain : (!layout.ascii || decide (c.toNat < 0x7f)) = true
  · rw [if_pos hplain, List.forall_mem_singleton]
    by_cases hlow : c.toNat < 0x7f
    · exact .graphic ⟨Nat.not_lt.1 hcontrol, hlow⟩
    · rw [decide_eq_false hlow, Bool.or_false, Bool.not_eq_true'] at hplain
      exact .beyond hplain (Nat.not_lt.1 hlow)
  rw [if_neg hplain]
  split
  · exact writes_of_graphic fun _ => isGraphic_of_mem_unitEscape
  · exact List.forall_mem_append.2 ⟨writes_of_graphic fun _ => isGraphic_of_mem_unitEscape,
      writes_of_graphic fun _ => isGraphic_of_mem_unitEscape⟩

/-- The same for a sign, which may be half of a pair. -/
theorem writes_escapedSign (layout : Layout) (s : Sign) :
    ∀ d ∈ escapedSign layout.ascii s, layout.Writes d := by
  cases s with
  | char c => exact writes_escapedChar layout c
  | half h => exact writes_of_graphic fun _ => isGraphic_of_mem_unitEscape

/-- A text with its quotes is written in characters of the layout. -/
theorem writes_writeText (layout : Layout) (w : Wording) :
    ∀ c ∈ writeText layout.ascii w, layout.Writes c := by
  have hquote : ∀ c ∈ ['"'], layout.Writes c := writes_of_all (by decide)
  refine List.forall_mem_append.2 ⟨List.forall_mem_cons.2 ⟨.graphic (by decide), ?_⟩, hquote⟩
  intro c hc
  obtain ⟨s, -, hs⟩ := List.mem_flatMap.1 hc
  exact writes_escapedSign layout s c hs

/-! ### Numbers -/

/-- A digit is graphic. -/
theorem isGraphic_of_isAsciiDigit (h : Text.isAsciiDigit c = true) : IsGraphic c := by
  simp only [Text.isAsciiDigit, Bool.and_eq_true, decide_eq_true_eq] at h
  have hlow : '0'.toNat ≤ c.toNat := h.1
  have hhigh : c.toNat ≤ '9'.toNat := h.2
  exact ⟨Nat.le_trans (by decide) hlow, Nat.lt_of_le_of_lt hhigh (by decide)⟩

/-- A number is written in graphic characters. -/
theorem isGraphic_of_mem_toString {n : Int} (h : c ∈ (toString n).toList) : IsGraphic c := by
  cases n with
  | ofNat m =>
    rw [Text.toList_toString_ofNat] at h
    exact isGraphic_of_isAsciiDigit (Text.isAsciiDigit_of_mem_toDigits h)
  | negSucc m =>
    rw [Text.toList_toString_negSucc] at h
    rcases List.mem_cons.1 h with rfl | h
    · decide
    · exact isGraphic_of_isAsciiDigit (Text.isAsciiDigit_of_mem_toDigits h)

/-! ### Between the items -/

/-- An indented layout writes line breaks. -/
theorem writes_lineBreak (h : layout.indented = true) (depth : Nat) :
    ∀ c ∈ lineBreak depth, layout.Writes c := by
  refine List.forall_mem_cons.2 ⟨.lineBreak h, fun c hc => ?_⟩
  rw [(List.mem_replicate.1 hc).2]
  exact .graphic (by decide)

/-- What stands inside a bracket is of the layout. -/
theorem writes_edge (layout : Layout) (depth : Nat) : ∀ c ∈ layout.edge depth, layout.Writes c := by
  unfold Layout.edge
  split
  · next h => exact writes_lineBreak h depth
  · nofun

/-- An array or an object starts with a bracket and what stands before its first item. -/
theorem writes_opening (hc : IsGraphic c) (layout : Layout) (depth : Nat) :
    ∀ d ∈ c :: layout.edge depth, layout.Writes d :=
  List.forall_mem_cons.2 ⟨.graphic hc, writes_edge layout depth⟩

/-- What stands between two members is of the layout. -/
theorem writes_separator (layout : Layout) (depth : Nat) :
    ∀ c ∈ layout.separator depth, layout.Writes c := by
  unfold Layout.separator
  split
  · next h => exact List.forall_mem_cons.2 ⟨.graphic (by decide), writes_lineBreak h depth⟩
  · exact writes_of_all (by decide)

/-- The items of an array are of the layout if each of them is. -/
theorem writes_writeItems {items : List Json}
    (h : ∀ j ∈ items, ∀ c ∈ write layout depth j, layout.Writes c) :
    ∀ c ∈ writeItems layout depth items, layout.Writes c := by
  induction items with
  | nil => nofun
  | cons item rest ih =>
    obtain ⟨hitem, hrest⟩ := List.forall_mem_cons.1 h
    rw [writeItems, List.forall_mem_append, List.forall_mem_append]
    exact ⟨⟨writes_separator layout depth, hitem⟩, ih hrest⟩

/-- What stands behind a name is of the layout. -/
theorem writes_colon (layout : Layout) : ∀ c ∈ [':', ' '], layout.Writes c :=
  writes_of_all (by decide)

/-- The fields of an object are of the layout if their values are. -/
theorem writes_writeEntries {entries : List (Wording × Json)}
    (h : ∀ e ∈ entries, ∀ c ∈ write layout depth e.2, layout.Writes c) :
    ∀ c ∈ writeEntries layout depth entries, layout.Writes c := by
  induction entries with
  | nil => nofun
  | cons entry rest ih =>
    obtain ⟨name, v⟩ := entry
    obtain ⟨hv, hrest⟩ := List.forall_mem_cons.1 h
    rw [writeEntries]
    simp only [List.forall_mem_append]
    exact ⟨⟨⟨⟨writes_separator layout depth, writes_writeText layout name⟩,
      writes_colon layout⟩, hv⟩, ih hrest⟩

/-- So are those of an object with halves in its names. -/
theorem writes_writeMixed {entries : List (Wording × Json)}
    (h : ∀ e ∈ entries, ∀ depth, ∀ c ∈ write layout depth e.2, layout.Writes c) :
    ∀ c ∈ write layout depth (.mixed entries), layout.Writes c := by
  -- An empty object is written as two braces without an edge between.
  cases entries with
  | nil =>
    rw [write]
    exact writes_of_all (by decide)
  | cons entry rest =>
    obtain ⟨name, v⟩ := entry
    obtain ⟨hv, hrest⟩ := List.forall_mem_cons.1 h
    rw [write]
    simp only [List.forall_mem_append]
    exact ⟨⟨⟨⟨⟨⟨writes_opening (by decide) layout _, writes_writeText layout name⟩,
      writes_colon layout⟩, hv _⟩, writes_writeEntries fun e he => hrest e he _⟩,
      writes_edge layout _⟩, writes_of_all (by decide)⟩

/-! ### Whole documents -/

/-- A plain document consists of the characters of its layout. -/
theorem writes_of_mem_write {j : Json} (h : Plain j) (layout : Layout) (depth : Nat) :
    ∀ c ∈ write layout depth j, layout.Writes c := by
  -- On the document. What a container writes around its parts is of the layout's own
  -- characters.
  induction h generalizing depth with
  | null =>
    rw [write]
    exact writes_of_all (by decide)
  | bool b => cases b <;> rw [write] <;> exact writes_of_all (by decide)
  | string s => exact writes_writeText layout s
  | @halved w => exact writes_writeText layout w
  | int => exact writes_of_graphic fun _ => isGraphic_of_mem_toString
  | @array items h ih =>
    cases items with
    | nil =>
      rw [write]
      exact writes_of_all (by decide)
    | cons item rest =>
      obtain ⟨hitem, hrest⟩ := List.forall_mem_cons.1 ih
      rw [write]
      simp only [List.forall_mem_append]
      exact ⟨⟨⟨⟨writes_opening (by decide) layout _, hitem _⟩,
        writes_writeItems fun j hj => hrest j hj _⟩, writes_edge layout _⟩,
        writes_of_all (by decide)⟩
  | @object fields _ _ ih =>
    rw [write_object]
    exact writes_writeMixed (List.forall_mem_map.2 ih)
  | mixed _ _ _ ih => exact writes_writeMixed ih

/-- The text of a document consists of them too. -/
theorem writes_of_mem_encode {j : Json} (h : Plain j) (layout : Layout)
    (hc : c ∈ (encode layout j).toList) : layout.Writes c := by
  unfold encode at hc
  rw [String.toList_ofList] at hc
  exact writes_of_mem_write h layout 0 c hc

end

end QueryGuard.Json
