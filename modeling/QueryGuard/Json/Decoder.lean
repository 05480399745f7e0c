import QueryGuard.Json.Basic

/-!
# `QueryGuard.Json.Decoder`: reading a document

A reader of documents by recursive descent. Every fault names its
cause and the place it was met, counted in characters from the start,
and the wording is made from these two alone. Beyond the standard the
reader takes the three names of the numbers that are not finite, keeps
the last of several fields of one name, and refuses whole numbers of
more digits than `Numeral.maxDigits`. Half of a pair that an escape
spells is kept as it is.
-/

set_option autoImplicit false

namespace QueryGuard.Json

/-- What the reader met where it expected something else. -/
inductive Cause where
  | expectingValue
  | expectingName
  | expectingColon
  | expectingComma
  | extraData
  | unterminatedString
  | invalidEscape
  | invalidCodeEscape
  | invalidControl
  | byteOrderMark
  deriving DecidableEq, Repr

/-- The wording of a cause. -/
def Cause.message : Cause → String
  | .expectingValue => "Expecting value"
  | .expectingName => "Expecting property name enclosed in double quotes"
  | .expectingColon => "Expecting ':' delimiter"
  | .expectingComma => "Expecting ',' delimiter"
  | .extraData => "Extra data"
  | .unterminatedString => "Unterminated string starting at"
  | .invalidEscape => "Invalid \\escape"
  | .invalidCodeEscape => "Invalid \\uXXXX escape"
  | .invalidControl => "Invalid control character at"
  | .byteOrderMark => "Unexpected UTF-8 BOM (decode using utf-8-sig)"

/-- Why a text is no document. -/
inductive DecodeError where
  /-- A cause and where it was met, in characters from the start. -/
  | malformed (cause : Cause) (position line column : Nat)
  /-- A whole number of too many digits. -/
  | numberTooLong (digits : Nat)
  deriving DecidableEq, Repr

/-- The wording of a decoding error. -/
def DecodeError.message : DecodeError → String
  | .malformed cause position line column =>
    s!"{cause.message}: line {line} column {column} (char {position})"
  | .numberTooLong digits => Numeral.tooLongMessage digits

namespace Decoder

/-- Why reading stopped; a place is given by the characters left from
there on. -/
inductive Stop where
  | at (cause : Cause) (left : Nat)
  | numberTooLong (digits : Nat)
  deriving DecidableEq, Repr

/-- The blanks between the tokens. -/
def isSpace (c : Char) : Bool := c = ' ' || c = '\t' || c = '\n' || c = '\r'

/-- The rest from the next token on. -/
def skip (cs : List Char) : List Char := cs.dropWhile isSpace

/-- The value of four hexadecimal digits, if something still follows
them. -/
def codeUnit? : List Char → Option (Nat × List Char)
  | a :: b :: c :: d :: e :: rest => do
    let a ← Text.hexValue? a
    let b ← Text.hexValue? b
    let c ← Text.hexValue? c
    let d ← Text.hexValue? d
    return (((a * 16 + b) * 16 + c) * 16 + d, e :: rest)
  | _ => none

/-- The sign of an escape by code unit. The input stands after the
`u`. -/
def codeEscape (cs : List Char) : Except Stop (Sign × List Char) :=
  match codeUnit? cs with
  | none => .error (.at .invalidCodeEscape (cs.length + 1))
  | some (n, rest) => .ok (.ofUnit n, rest)

/-- The character that a one-letter escape stands for. -/
def letterEscape? : Char → Option Char
  | '"' => some '"'
  | '\\' => some '\\'
  | '/' => some '/'
  | 'b' => some '\x08'
  | 'f' => some '\x0c'
  | 'n' => some '\n'
  | 'r' => some '\r'
  | 't' => some '\t'
  | _ => none

/-- The inside of a text up to its closing quote. The opening quote had
`opening` characters left. -/
def stringBody (opening : Nat) : Nat → List Char → Except Stop (List Sign × List Char)
  | 0, _ => .error (.at .unterminatedString opening)
  | fuel + 1, cs =>
    match cs with
    | [] => .error (.at .unterminatedString opening)
    | '"' :: rest => .ok ([], rest)
    | '\\' :: [] => .error (.at .unterminatedString opening)
    | '\\' :: 'u' :: rest => do
      let (s, rest) ← codeEscape rest
      let (signs, rest) ← stringBody opening fuel rest
      return (s :: signs, rest)
    | '\\' :: letter :: rest =>
      match letterEscape? letter with
      | none => .error (.at .invalidEscape cs.length)
      | some c => do
        let (signs, rest) ← stringBody opening fuel rest
        return (.char c :: signs, rest)
    | c :: rest =>
      if c.toNat ≤ 0x1f then .error (.at .invalidControl cs.length)
      else do
        let (signs, rest) ← stringBody opening fuel rest
        return (.char c :: signs, rest)

/-- A text whose opening quote has been read. A character beyond the
first plane takes two escapes, which are joined here. -/
def string (rest : List Char) : Except Stop (Wording × List Char) := do
  let (signs, rest) ← stringBody (rest.length + 1) (rest.length + 1) rest
  return (.ofSigns signs, rest)

/-- The values of the digits in front, and what follows them. -/
def digits (cs : List Char) : List Nat × List Char :=
  ((cs.takeWhile Text.isAsciiDigit).map (·.toNat - 0x30), cs.dropWhile Text.isAsciiDigit)

/-- The digits of a whole number: one zero, or digits that start with
another. -/
def wholeDigits? (cs : List Char) : Option (List Nat × List Char) :=
  match cs with
  | '0' :: rest => some ([0], rest)
  | c :: _ => if Text.isAsciiDigit c then some (digits cs) else none
  | [] => none

/-- The digits after a point; a point without digits is not part of the
number. -/
def fractionDigits (cs : List Char) : List Nat × List Char :=
  match cs with
  | '.' :: c :: rest => if Text.isAsciiDigit c then digits (c :: rest) else ([], cs)
  | _ => ([], cs)

/-- The power of ten after its mark; a mark without digits is not part
of the number. -/
def exponent? (cs : List Char) : Option (Int × List Char) :=
  match cs with
  | c :: rest =>
    if c = 'e' || c = 'E' then
      let (negative, unsigned) := Numeral.splitSign rest
      let (ds, rest) := digits unsigned
      if ds.isEmpty then none
      else
        let n : Nat := Text.numberOfDigits ds
        some (if negative then -(n : Int) else n, rest)
    else none
  | [] => none

/-- A number, whole unless a fraction or a power of ten follows. -/
def number? (cs : List Char) : Option (Except Stop (Number × List Char)) := do
  let (negative, unsigned) := match cs with
    | '-' :: rest => (true, rest)
    | _ => (false, cs)
  let (whole, rest) ← wholeDigits? unsigned
  let (fraction, rest) := fractionDigits rest
  match exponent? rest with
  | some (e, rest) =>
    return .ok (.double (Double.ofDecimal negative (Text.numberOfDigits (whole ++ fraction))
      (e - fraction.length)), rest)
  | none =>
    if fraction.isEmpty then
      match Numeral.ofDigits whole with
      | .ok n => return .ok (.int (if negative then -(n : Int) else n), rest)
      | .error _ => return .error (.numberTooLong whole.length)
    else
      return .ok (.double (Double.ofDecimal negative (Text.numberOfDigits (whole ++ fraction))
        (-fraction.length)), rest)

/-- The named values. -/
def namedValues : List (String × Json) :=
  [("null", .null), ("true", .bool true), ("false", .bool false),
    ("NaN", .number (.double .nan)), ("Infinity", .number (.double (.infinite false))),
    ("-Infinity", .number (.double (.infinite true)))]

/-- What follows a word that stands in front. -/
def after? (word cs : List Char) : Option (List Char) :=
  if word.isPrefixOf cs then some (cs.drop word.length) else none

/-- A value that is neither text, array nor object. -/
def scalar (cs : List Char) : Except Stop (Json × List Char) :=
  match namedValues.findSome? fun (word, v) => (after? word.toList cs).map (v, ·) with
  | some found => .ok found
  | none =>
    match number? cs with
    | some (.ok (n, rest)) => .ok (.number n, rest)
    | some (.error stop) => .error stop
    | none => .error (.at .expectingValue cs.length)

mutual

/-- The value that stands in front. -/
def value : Nat → List Char → Except Stop (Json × List Char)
  | 0, cs => .error (.at .expectingValue cs.length)
  | fuel + 1, cs =>
    match cs with
    | '"' :: rest => do
      let (s, rest) ← string rest
      return (.ofWording s, rest)
    | '[' :: rest =>
      match skip rest with
      | ']' :: rest => .ok (.array [], rest)
      | rest => do
        let (items, rest) ← elements fuel rest
        return (.array items, rest)
    | '\x7b' :: rest =>
      match skip rest with
      | '\x7d' :: rest => .ok (.object [], rest)
      | rest => do
        let (entries, rest) ← members fuel rest
        return (.ofEntries (Fields.ofList entries), rest)
    | _ => scalar cs

/-- The values of an array from the next one to its closing bracket. -/
def elements : Nat → List Char → Except Stop (List Json × List Char)
  | 0, cs => .error (.at .expectingValue cs.length)
  | fuel + 1, cs => do
    let (item, rest) ← value fuel cs
    match skip rest with
    | ']' :: rest => return ([item], rest)
    | ',' :: rest =>
      let (items, rest) ← elements fuel (skip rest)
      return (item :: items, rest)
    | rest => throw (.at .expectingComma rest.length)

/-- The entries of an object from the next one to its closing brace. -/
def members : Nat → List Char → Except Stop (List (Wording × Json) × List Char)
  | 0, cs => .error (.at .expectingName cs.length)
  | fuel + 1, cs =>
    match cs with
    | '"' :: rest => do
      let (name, rest) ← string rest
      match skip rest with
      | ':' :: rest =>
        let (v, rest) ← value fuel (skip rest)
        match skip rest with
        | '\x7d' :: rest => return ([(name, v)], rest)
        | ',' :: rest =>
          let (entries, rest) ← members fuel (skip rest)
          return ((name, v) :: entries, rest)
        | rest => throw (.at .expectingComma rest.length)
      | rest => throw (.at .expectingColon rest.length)
    | _ => .error (.at .expectingName cs.length)

end

/-- A whole document: one value and blanks around it. Every value
spends two steps at most on each of its characters. -/
def document (cs : List Char) : Except Stop Json := do
  let (v, rest) ← value (2 * cs.length + 2) (skip cs)
  match skip rest with
  | [] => return v
  | rest => throw (.at .extraData rest.length)

/-- The line and the column of a place, both counted from one. -/
def lineColumn (before : List Char) : Nat × Nat :=
  (before.count '\n' + 1, (before.reverse.takeWhile (· != '\n')).length + 1)

/-- The error of a reader that stopped in a text. -/
def Stop.error (cs : List Char) : Stop → DecodeError
  | .at cause left =>
    let position := cs.length - left
    let (line, column) := lineColumn (cs.take position)
    .malformed cause position line column
  | .numberTooLong digits => .numberTooLong digits

end Decoder

/-- The code point of the byte order mark. -/
def byteOrderMark : Char := Char.ofNat 0xfeff

/-- Read a document, at whose start nothing is left out. -/
def ofChars? (cs : List Char) : Except DecodeError Json :=
  (Decoder.document cs).mapError (Decoder.Stop.error cs)

/-- Read a document from a text, which must not start with a byte order
mark. -/
def decode (text : String) : Except DecodeError Json :=
  match text.toList with
  | c :: rest =>
    if c = byteOrderMark then .error (.malformed .byteOrderMark 0 1 1) else ofChars? (c :: rest)
  | [] => ofChars? []

/-- Read a document from the body of a message, from which one byte
order mark at the start is dropped. -/
def decodeBody (body : String) : Except DecodeError Json :=
  match body.toList with
  | c :: rest => if c = byteOrderMark then ofChars? rest else ofChars? (c :: rest)
  | [] => ofChars? []

end QueryGuard.Json
