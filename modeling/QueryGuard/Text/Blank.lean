import QueryGuard.Text.Span

/-!
# `QueryGuard.Text.Blank`: blank characters and the ends of a text

A text that a user types is read without the blanks around it. Blank
are the tabs and line ends, the four information separators, and every
space character; the zero-width space and the byte order mark are not.
-/

set_option autoImplicit false

namespace QueryGuard.Text

/-- The blank characters. -/
def blankSpans : List Span :=
  [⟨0x09, 0x0d⟩, ⟨0x1c, 0x20⟩, ⟨0x85, 0x85⟩, ⟨0xa0, 0xa0⟩, ⟨0x1680, 0x1680⟩, ⟨0x2000, 0x200a⟩,
    ⟨0x2028, 0x2029⟩, ⟨0x202f, 0x202f⟩, ⟨0x205f, 0x205f⟩, ⟨0x3000, 0x3000⟩]

/-- A blank character. -/
def isBlankChar (c : Char) : Bool := Span.cover blankSpans c

/-- A row of characters without the blanks in front. -/
def trimStart (cs : List Char) : List Char := cs.dropWhile isBlankChar

/-- A row of characters without the blanks at its end. -/
def trimEnd (cs : List Char) : List Char := (trimStart cs.reverse).reverse

/-- A row of characters without the blanks at either end. -/
def trim (cs : List Char) : List Char := trimEnd (trimStart cs)

/-- A text without the blanks at either end. -/
def strip (s : String) : String := String.ofList (trim s.toList)

/-- A text of blanks alone, or of nothing. -/
def isBlank (s : String) : Bool := s.toList.all isBlankChar

end QueryGuard.Text
