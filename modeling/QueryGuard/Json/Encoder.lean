import QueryGuard.Json.Basic

/-!
# `QueryGuard.Json.Encoder`: writing a document

A document on one line, or with one item to a line and two blanks for
each level. Quotes, backslashes and control characters are escaped
always; where the output must be ASCII, so is everything from the
delete character on. Half of a pair is no character and has no other
form than its escape.
-/

set_option autoImplicit false

namespace QueryGuard.Json

/-- How a document is written. -/
structure Layout where
  /-- Escape all characters from the delete character on. -/
  ascii : Bool
  /-- One item to a line. -/
  indented : Bool

/-- One line of ASCII text. -/
def Layout.asciiLine : Layout := ⟨true, false⟩

/-- One line, in the characters of the texts. -/
def Layout.line : Layout := ⟨false, false⟩

/-- One item to a line, ASCII text. -/
def Layout.page : Layout := ⟨true, true⟩

/-- The escape of one code unit. -/
def unitEscape (n : Nat) : List Char := '\\' :: 'u' :: Text.hexDigits 4 n

/-- One character inside a text. -/
def escapedChar (ascii : Bool) (c : Char) : List Char :=
  if c = '"' then ['\\', '"']
  else if c = '\\' then ['\\', '\\']
  else if c = '\n' then ['\\', 'n']
  else if c = '\r' then ['\\', 'r']
  else if c = '\t' then ['\\', 't']
  else if c = '\x08' then ['\\', 'b']
  else if c = '\x0c' then ['\\', 'f']
  else if c.toNat < 0x20 then unitEscape c.toNat
  else if !ascii || c.toNat < 0x7f then [c]
  else if c.toNat < 0x10000 then unitEscape c.toNat
  else
    let offset := c.toNat - 0x10000
    unitEscape (0xd800 + offset / 0x400) ++ unitEscape (0xdc00 + offset % 0x400)

/-- One sign inside a text. -/
def escapedSign (ascii : Bool) : Sign → List Char
  | .char c => escapedChar ascii c
  | .half h => unitEscape h.unit

/-- A text in quotes. -/
def writeText (ascii : Bool) (w : Wording) : List Char :=
  '"' :: w.signs.flatMap (escapedSign ascii) ++ ['"']

/-- The text of a number. -/
def numberText : Number → String
  | .int n => toString n
  | .double .nan => "NaN"
  | .double (.infinite false) => "Infinity"
  | .double (.infinite true) => "-Infinity"
  | .double x => x.text

/-- What stands before an item on a line of its own. -/
def lineBreak (depth : Nat) : List Char := '\n' :: List.replicate (2 * depth) ' '

/-- What stands before the first item and after the last one. -/
def Layout.edge (layout : Layout) (depth : Nat) : List Char :=
  if layout.indented then lineBreak depth else []

/-- What stands between two items. -/
def Layout.separator (layout : Layout) (depth : Nat) : List Char :=
  if layout.indented then ',' :: lineBreak depth else [',', ' ']

mutual

/-- A document at a level of depth. -/
def write (layout : Layout) (depth : Nat) : Json → List Char
  | .null => ['n', 'u', 'l', 'l']
  | .bool true => ['t', 'r', 'u', 'e']
  | .bool false => ['f', 'a', 'l', 's', 'e']
  | .number n => (numberText n).toList
  | .string s => writeText layout.ascii s
  | .halved w => writeText layout.ascii w
  | .array [] => ['[', ']']
  | .array (item :: rest) =>
    '[' :: layout.edge (depth + 1) ++ write layout (depth + 1) item
      ++ writeItems layout (depth + 1) rest ++ layout.edge depth ++ [']']
  | .object [] => ['\x7b', '\x7d']
  | .object ((name, v) :: rest) =>
    '\x7b' :: layout.edge (depth + 1) ++ writeText layout.ascii name ++ [':', ' ']
      ++ write layout (depth + 1) v ++ writeFields layout (depth + 1) rest
      ++ layout.edge depth ++ ['\x7d']
  | .mixed [] => ['\x7b', '\x7d']
  | .mixed ((name, v) :: rest) =>
    '\x7b' :: layout.edge (depth + 1) ++ writeText layout.ascii name ++ [':', ' ']
      ++ write layout (depth + 1) v ++ writeEntries layout (depth + 1) rest
      ++ layout.edge depth ++ ['\x7d']

/-- The items after the first. -/
def writeItems (layout : Layout) (depth : Nat) : List Json → List Char
  | [] => []
  | item :: rest =>
    layout.separator depth ++ write layout depth item ++ writeItems layout depth rest

/-- The fields after the first. -/
def writeFields (layout : Layout) (depth : Nat) : List (String × Json) → List Char
  | [] => []
  | (name, v) :: rest =>
    layout.separator depth ++ writeText layout.ascii name ++ [':', ' ']
      ++ write layout depth v ++ writeFields layout depth rest

/-- The entries after the first. -/
def writeEntries (layout : Layout) (depth : Nat) : List (Wording × Json) → List Char
  | [] => []
  | (name, v) :: rest =>
    layout.separator depth ++ writeText layout.ascii name ++ [':', ' ']
      ++ write layout depth v ++ writeEntries layout depth rest

end

/-- The text of a document. -/
def encode (layout : Layout) (j : Json) : String := String.ofList (write layout 0 j)

end QueryGuard.Json
