import QueryGuard.Text.Blank
import QueryGuard.Text.Quoted

/-!
# `QueryGuard.Text.Wording`: texts with halves of pairs

A character beyond the first plane takes two code units, a high half
and a low one. A text that is sent in escapes may hold one of them
without the other, and so may a word of a command line whose bytes are
no text. Such a half is no character, and a text that holds one cannot
be sent on as it is.

A wording is a text in which halves may stand alone. A high half in
front of a low one does not stand alone, for the two are one character:
they are joined where they meet, and no wording holds them so. A text
of characters is a wording, which is why most of what follows is only
about the others.
-/

set_option autoImplicit false

namespace QueryGuard

/-- Half of a pair of code units. -/
inductive Half where
  | high (n : Fin 0x400)
  | low (n : Fin 0x400)
  deriving DecidableEq, Repr

/-- The code unit of a half. -/
def Half.unit : Half → Nat
  | .high n => 0xd800 + n
  | .low n => 0xdc00 + n

theorem Half.unit_inj {a b : Half} (h : a.unit = b.unit) : a = b := by
  cases a with
  | high m =>
    cases b with
    | high n =>
      have hunits : 0xd800 + m.val = 0xd800 + n.val := h
      exact congrArg high (Fin.ext (Nat.add_left_cancel hunits))
    | low n =>
      have hunits : 0xd800 + m.val = 0xdc00 + n.val := h
      omega
  | low m =>
    cases b with
    | high n =>
      have hunits : 0xdc00 + m.val = 0xd800 + n.val := h
      omega
    | low n =>
      have hunits : 0xdc00 + m.val = 0xdc00 + n.val := h
      exact congrArg low (Fin.ext (Nat.add_left_cancel hunits))

theorem Half.unit_bounds (h : Half) : 0xd800 ≤ h.unit ∧ h.unit ≤ 0xdfff := by
  cases h with
  | high n =>
    show 0xd800 ≤ 0xd800 + n.val ∧ 0xd800 + n.val ≤ 0xdfff
    omega
  | low n =>
    show 0xd800 ≤ 0xdc00 + n.val ∧ 0xdc00 + n.val ≤ 0xdfff
    omega

/-- No character has the code unit of a half. -/
theorem Half.not_unit (c : Char) : c.toNat < 0xd800 ∨ 0xdfff < c.toNat :=
  c.valid.imp_right And.left

/-- The character of two halves. -/
def Half.pair (high low : Fin 0x400) : Char := Char.ofNat (0x10000 + high * 0x400 + low)

/-- What stands at a place of a wording. -/
inductive Sign where
  | char (c : Char)
  | half (h : Half)
  deriving DecidableEq, Repr

namespace Sign

/-- The sign of a code unit. -/
def ofUnit (n : Nat) : Sign :=
  if h : 0xd800 ≤ n ∧ n < 0xdc00 then .half (.high ⟨n - 0xd800, by omega⟩)
  else if h : 0xdc00 ≤ n ∧ n < 0xe000 then .half (.low ⟨n - 0xdc00, by omega⟩)
  else .char (Char.ofNat n)

/-- The code point of a sign. -/
def code : Sign → Nat
  | .char c => c.toNat
  | .half h => h.unit

/-- No character is half of a pair, so a sign is known by its code
point. -/
theorem code_inj {s t : Sign} (h : s.code = t.code) : s = t := by
  cases s with
  | char c =>
    cases t with
    | char d => exact congrArg char (Char.toNat_inj.1 h)
    | half b =>
      have heq : c.toNat = b.unit := h
      have := Half.not_unit c
      have := b.unit_bounds
      omega
  | half a =>
    cases t with
    | char d =>
      have heq : a.unit = d.toNat := h
      have := Half.not_unit d
      have := a.unit_bounds
      omega
    | half b => exact congrArg half (Half.unit_inj h)

theorem ofUnit_toNat (c : Char) : ofUnit c.toNat = .char c := by
  have := Half.not_unit c
  rw [ofUnit, dif_neg (by omega), dif_neg (by omega), Char.ofNat_toNat]

theorem ofUnit_unit (h : Half) : ofUnit h.unit = .half h := by
  cases h with
  | high n =>
    have hunit : 0xd800 ≤ 0xd800 + n.val ∧ 0xd800 + n.val < 0xdc00 := by omega
    show ofUnit (0xd800 + n.val) = _
    rw [ofUnit, dif_pos hunit]
    exact congrArg (fun m => Sign.half (.high m)) (Fin.ext (Nat.add_sub_cancel_left _ _))
  | low n =>
    have hunit : 0xdc00 ≤ 0xdc00 + n.val ∧ 0xdc00 + n.val < 0xe000 := by omega
    show ofUnit (0xdc00 + n.val) = _
    rw [ofUnit, dif_neg (by omega), dif_pos hunit]
    exact congrArg (fun m => Sign.half (.low m)) (Fin.ext (Nat.add_sub_cancel_left _ _))

/-- The character of a sign. -/
def char? : Sign → Option Char
  | .char c => some c
  | .half _ => none

/-- A high half in front of a low one. -/
def meets : Sign → Sign → Bool
  | .half (.high _), .half (.low _) => true
  | _, _ => false

/-- A row of signs with one more in front, which is joined with the
first of the row if it is its other half. -/
def push : Sign → List Sign → List Sign
  | .half (.high h), .half (.low l) :: rest => .char (Half.pair h l) :: rest
  | s, signs => s :: signs

/-- No high half stands in front of a low one. -/
def areApart : List Sign → Bool
  | s :: t :: rest => !s.meets t && areApart (t :: rest)
  | _ => true

theorem areApart_cons {s : Sign} {signs : List Sign} :
    areApart (s :: signs) = true ↔
      (∀ t, signs.head? = some t → s.meets t = false) ∧ areApart signs = true := by
  cases signs with
  | nil => exact iff_of_true rfl ⟨nofun, rfl⟩
  | cons t rest =>
    rw [areApart, Bool.and_eq_true, Bool.not_eq_true']
    exact and_congr_left fun _ => ⟨fun h u hu => Option.some.inj hu ▸ h, fun h => h t rfl⟩

theorem areApart_char_cons {c : Char} {signs : List Sign} (h : areApart signs = true) :
    areApart (.char c :: signs) = true :=
  areApart_cons.2 ⟨fun _ _ => rfl, h⟩

theorem areApart_map_char (cs : List Char) : areApart (cs.map .char) = true := by
  induction cs with
  | nil => rfl
  | cons c rest ih => exact areApart_char_cons ih

/-- Signs that are characters, all of them, are the signs of these. -/
theorem map_char_of_mapM {signs : List Sign} {cs : List Char} (h : signs.mapM char? = some cs) :
    cs.map char = signs := by
  induction signs generalizing cs with
  | nil =>
    cases h
    rfl
  | cons s rest ih =>
    cases s with
    | half _ => cases h
    | char c =>
      rw [List.mapM_cons] at h
      obtain ⟨d, hd, hrest⟩ := Option.bind_eq_some_iff.1 h
      cases hd
      obtain ⟨others, hothers, hcs⟩ := Option.bind_eq_some_iff.1 hrest
      cases hcs
      rw [List.map_cons, ih hothers]

/-- A sign that does not meet the first of a row is put in front of it. -/
theorem push_of_apart {s : Sign} {signs : List Sign} (h : areApart (s :: signs) = true) :
    push s signs = s :: signs := by
  unfold push
  split
  · next high low rest => cases (areApart_cons.1 h).1 _ rfl
  · rfl

theorem areApart_push (s : Sign) {signs : List Sign} (h : areApart signs = true) :
    areApart (push s signs) = true := by
  unfold push
  split
  · next high low rest => exact areApart_char_cons (areApart_cons.1 h).2
  · next hnot =>
    refine areApart_cons.2 ⟨fun t ht => ?_, h⟩
    obtain ⟨rest, rfl⟩ := List.head?_eq_some_iff.1 ht
    unfold meets
    split
    · exact (hnot _ _ _ rfl rfl).elim
    · rfl

end Sign

/-- A text in which halves of pairs may stand alone. -/
structure Wording where
  signs : List Sign
  apart : Sign.areApart signs = true
  deriving DecidableEq, Repr

namespace Wording

/-- The wording of a text. -/
def ofString (s : String) : Wording := ⟨s.toList.map .char, Sign.areApart_map_char s.toList⟩

instance : Coe String Wording := ⟨ofString⟩

instance : Inhabited Wording := ⟨""⟩

/-- A wording with one more sign in front. -/
def cons (s : Sign) (w : Wording) : Wording := ⟨Sign.push s w.signs, Sign.areApart_push s w.apart⟩

/-- The wording of a row of signs. -/
def ofSigns (signs : List Sign) : Wording := signs.foldr cons ""

/-- One wording after the other. -/
def append (w v : Wording) : Wording := w.signs.foldr cons v

instance : Append Wording := ⟨append⟩

/-- The text of a wording without halves. -/
def plain? (w : Wording) : Option String := (w.signs.mapM Sign.char?).map String.ofList

/-- A wording without halves. -/
def isPlain (w : Wording) : Bool := w.plain?.isSome

/-- A wording of blanks alone, or of nothing. -/
def isBlank (w : Wording) : Bool := w.signs.all fun s => s.char?.any Text.isBlankChar

/-- Wordings are in the order of their code points. -/
instance : LT Wording := ⟨fun w v => w.signs.map Sign.code < v.signs.map Sign.code⟩

instance (w v : Wording) : Decidable (w < v) :=
  inferInstanceAs (Decidable (w.signs.map Sign.code < v.signs.map Sign.code))

/-! ### What a text of characters is as a wording -/

theorem ext {w v : Wording} (h : w.signs = v.signs) : w = v := by
  cases w
  cases v
  cases h
  rfl

theorem plain?_ofString (s : String) : (ofString s).plain? = some s := by
  have hchars (cs : List Char) : (cs.map Sign.char).mapM Sign.char? = some cs := by
    induction cs with
    | nil => rfl
    | cons c rest ih =>
      rw [List.map_cons, List.mapM_cons, ih]
      rfl
  unfold plain? ofString
  simp only [hchars]
  exact congrArg some (String.ofList_toList)

/-- A wording without halves is the wording of its text. -/
theorem ofString_of_plain? {w : Wording} {s : String} (h : w.plain? = some s) :
    ofString s = w := by
  obtain ⟨cs, hcs, rfl⟩ := Option.map_eq_some_iff.1 h
  refine ext ?_
  show (String.ofList cs).toList.map Sign.char = w.signs
  rw [String.toList_ofList, Sign.map_char_of_mapM hcs]

theorem ofString_inj {s t : String} : ofString s = ofString t ↔ s = t := by
  refine ⟨fun h => ?_, congrArg ofString⟩
  have hplain := congrArg plain? h
  rw [plain?_ofString, plain?_ofString] at hplain
  exact Option.some.inj hplain

theorem signs_cons_char (c : Char) (w : Wording) : (cons (.char c) w).signs = .char c :: w.signs :=
  Sign.push_of_apart (Sign.areApart_char_cons w.apart)

theorem signs_ofString_append (s : String) (w : Wording) :
    (ofString s ++ w).signs = s.toList.map .char ++ w.signs := by
  show ((s.toList.map Sign.char).foldr cons w).signs = _
  induction s.toList with
  | nil => rfl
  | cons c rest ih => rw [List.map_cons, List.foldr_cons, signs_cons_char, ih, List.cons_append]

/-- Texts are put together as texts. -/
theorem ofString_append (s t : String) : ofString (s ++ t) = ofString s ++ ofString t := by
  refine ext ?_
  rw [signs_ofString_append]
  show (s ++ t).toList.map Sign.char = s.toList.map .char ++ t.toList.map .char
  rw [String.toList_append, List.map_append]

theorem isBlank_ofString (s : String) : (ofString s).isBlank = Text.isBlank s := by
  unfold isBlank ofString Text.isBlank
  simp only [List.all_map]
  rfl

theorem isBlank_ofString_append (s : String) (w : Wording) :
    (ofString s ++ w).isBlank = (Text.isBlank s && w.isBlank) := by
  rw [← isBlank_ofString]
  unfold isBlank
  rw [signs_ofString_append, List.all_append]
  rfl

/-! ### The order -/

theorem lt_irrefl (w : Wording) : ¬ w < w := List.lt_irrefl (w.signs.map Sign.code)

theorem lt_trans {u v w : Wording} (huv : u < v) (hvw : v < w) : u < w := List.lt_trans huv hvw

/-- Two wordings of which neither comes first are one. -/
theorem eq_of_not_lt {w v : Wording} (hwv : ¬ w < v) (hvw : ¬ v < w) : w = v := by
  have hcodes : w.signs.map Sign.code = v.signs.map Sign.code :=
    List.le_antisymm (List.not_lt.1 hvw) (List.not_lt.1 hwv)
  exact ext ((List.map_inj_right fun _ _ => Sign.code_inj).1 hcodes)

end Wording

/-! ### Inside messages -/

namespace Text

/-- One sign as it is written inside `quote`. -/
def quotedSign (quote : Char) : Sign → List Char
  | .char c => quotedChar quote c
  | .half h => '\\' :: 'u' :: hexDigits 4 h.unit

end Text

namespace Wording

/-- A wording in quotes. -/
def quoted (w : Wording) : String :=
  let quote := Text.quoteFor (w.signs.filterMap Sign.char?)
  String.ofList (quote :: w.signs.flatMap (Text.quotedSign quote) ++ [quote])

/-- A wording as a stream of characters shows it: each half is spelled
by its code unit. -/
def shown (w : Wording) : String :=
  String.ofList (w.signs.flatMap fun
    | .char c => [c]
    | .half h => '\\' :: 'u' :: Text.hexDigits 4 h.unit)

/-- Why a wording with halves cannot be sent: where the first of them
stand. -/
def unsendable (w : Wording) : String :=
  let before := w.signs.takeWhile fun s => s.char?.isSome
  let halves := (w.signs.drop before.length).takeWhile fun s => s.char?.isNone
  let start := before.length
  let place := match halves with
    | [s] => " '" ++ String.ofList (Text.quotedSign '"' s) ++ "' in position " ++ toString start
    | _ => s!"s in position {start}-{start + halves.length - 1}"
  "'utf-8' codec can't encode character" ++ place ++ ": surrogates not allowed"

end Wording

end QueryGuard
