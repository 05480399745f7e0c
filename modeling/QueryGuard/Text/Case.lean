import QueryGuard.Text.CaseTable

/-!
# `QueryGuard.Text.Case`: lower and upper case of a whole text

The full case mappings: a letter may map to several characters, and a
capital sigma at the end of a word becomes the final sigma.
-/

set_option autoImplicit false

namespace QueryGuard.Text

/-- The character that a table of runs maps `c` to, `c` itself where
no run applies. -/
def mapRuns (runs : List CaseRun) (c : Char) : Char :=
  match runs.find? (·.applies c.toNat) with
  | some r => Char.ofNat (Int.toNat (c.toNat + r.shift))
  | none => c

/-- Dotted capital I is the one letter whose lower case takes two
characters. -/
def lowerChar (c : Char) : List Char :=
  if c.toNat = 0x130 then ['i', Char.ofNat 0x307] else [mapRuns lowerRuns c]

/-- The upper case of a character, which may take up to three. -/
def upperChar (c : Char) : List Char :=
  match upperExpansions.lookup c.toNat with
  | some codes => codes.map Char.ofNat
  | none => [mapRuns upperRuns c]

/-- The first character that is not stepped over is a cased letter. -/
def meetsCased (cs : List Char) : Bool :=
  match cs.dropWhile (Span.cover caseIgnorableSpans) with
  | c :: _ => Span.cover casedSpans c
  | [] => false

/-- Lower case of a row of characters, given what stands before it,
nearest first. A capital sigma is final after a cased letter and
before none. -/
def lowerAfter (before : List Char) : List Char → List Char
  | [] => []
  | c :: rest =>
    let mapped :=
      if c.toNat = 0x3a3 then
        [if meetsCased before && !meetsCased rest then Char.ofNat 0x3c2 else Char.ofNat 0x3c3]
      else lowerChar c
    mapped ++ lowerAfter (c :: before) rest

/-- A text in lower case. -/
def lower (s : String) : String := String.ofList (lowerAfter [] s.toList)

/-- A text in upper case. -/
def upper (s : String) : String := String.ofList (s.toList.flatMap upperChar)

end QueryGuard.Text
