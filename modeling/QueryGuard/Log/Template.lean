import QueryGuard.Log.Value
import QueryGuard.Number.Places

/-!
# `QueryGuard.Log.Template`: messages with placeholders

A message may be written as a template: each placeholder starts with a
percent sign, says how its argument is laid out, and ends with the
letter of a conversion. `pieces` cuts a template into text and
placeholders, `render` fills them in one after the other. Arguments
come in a row or by name; a template without arguments is its own
message.
-/

set_option autoImplicit false

namespace QueryGuard.Log.Template

/-- Why a template cannot be filled in. -/
inductive TemplateError where
  | tooFewArguments
  | tooManyArguments
  | incompleteKey
  | incomplete
  | needsMapping
  | missingKey (key : String)
  | notAWidth
  | widthTooBig
  | precisionTooBig
  /-- An argument gives an amount that its kind of number cannot hold. -/
  | amountTooBig (kind : String)
  | unknownConversion (conversion : Char) (index : Nat)
  | notANumber (conversion : Char) (kind : String)
  | notAnInteger (conversion : Char) (kind : String)
  | notAReal (kind : String)
  | notACharacter
  | characterOutOfRange
  | infiniteInteger
  | noInteger
  | integerTooLarge
  deriving DecidableEq, Repr

/-- The wording of a template error. -/
def TemplateError.message : TemplateError → String
  | .tooFewArguments => "not enough arguments for format string"
  | .tooManyArguments => "not all arguments converted during string formatting"
  | .incompleteKey => "incomplete format key"
  | .incomplete => "incomplete format"
  | .needsMapping => "format requires a mapping"
  | .missingKey key => Text.quoted key
  | .notAWidth => "* wants int"
  | .widthTooBig => "width too big"
  | .precisionTooBig => "precision too big"
  | .amountTooBig kind => s!"Python int too large to convert to C {kind}"
  | .unknownConversion c index =>
    let shown := if 31 ≤ c.toNat && c.toNat ≤ 126 then c else '?'
    s!"unsupported format character '{shown}' (0x{String.ofList (Nat.toDigits 16 c.toNat)}) " ++
      s!"at index {index}"
  | .notANumber c kind => s!"%{c} format: a real number is required, not {kind}"
  | .notAnInteger c kind => s!"%{c} format: an integer is required, not {kind}"
  | .notAReal kind => s!"must be real number, not {kind}"
  | .notACharacter => "%c requires int or char"
  | .characterOutOfRange => "%c arg not in range(0x110000)"
  | .infiniteInteger => "cannot convert float infinity to integer"
  | .noInteger => "cannot convert float NaN to integer"
  | .integerTooLarge => "int too large to convert to float"

/-- A width or a precision: written down, or taken from an argument. -/
inductive Amount where
  | fixed (n : Nat)
  | argument
  deriving DecidableEq, Repr

/-- The flags of a placeholder. -/
structure Flags where
  left : Bool := false
  plus : Bool := false
  blank : Bool := false
  alternate : Bool := false
  zero : Bool := false
  deriving DecidableEq, Repr

/-- A placeholder. -/
structure Placeholder where
  key : Option String
  flags : Flags
  width : Option Amount
  precision : Option Amount
  /-- The letter of the conversion and where it stands in the template;
  none where the template ends before it. -/
  conversion : Option (Char × Nat)
  deriving DecidableEq, Repr

/-- A part of a template. -/
inductive Piece where
  | text (c : Char)
  | placeholder (p : Placeholder)
  /-- A key without an end. -/
  | openKey
  deriving DecidableEq, Repr

/-- A key up to the parenthesis that closes it, and the rest. -/
def takeKey : Nat → List Char → Option (List Char × List Char)
  | _, [] => none
  | depth, ')' :: rest =>
    match depth with
    | 0 => some ([], rest)
    | d + 1 => (takeKey d rest).map fun (key, rest) => (')' :: key, rest)
  | depth, '(' :: rest => (takeKey (depth + 1) rest).map fun (key, rest) => ('(' :: key, rest)
  | depth, c :: rest => (takeKey depth rest).map fun (key, rest) => (c :: key, rest)

/-- The flags in front. -/
def takeFlags (flags : Flags) : List Char → Flags × List Char
  | '-' :: rest => takeFlags { flags with left := true } rest
  | '+' :: rest => takeFlags { flags with plus := true } rest
  | ' ' :: rest => takeFlags { flags with blank := true } rest
  | '#' :: rest => takeFlags { flags with alternate := true } rest
  | '0' :: rest => takeFlags { flags with zero := true } rest
  | rest => (flags, rest)

/-- The digits in front as a number, zero if there are none. -/
def takeNumber (cs : List Char) : Nat × List Char :=
  (Text.numberOfDigits ((cs.takeWhile Text.isAsciiDigit).map (·.toNat - 0x30)),
    cs.dropWhile Text.isAsciiDigit)

/-- The width in front. -/
def takeWidth : List Char → Option Amount × List Char
  | '*' :: rest => (some .argument, rest)
  | cs =>
    if (cs.head?).any Text.isAsciiDigit then
      let (n, rest) := takeNumber cs
      (some (.fixed n), rest)
    else (none, cs)

/-- The precision in front, after its point. -/
def takePrecision : List Char → Option Amount × List Char
  | '.' :: '*' :: rest => (some .argument, rest)
  | '.' :: rest =>
    let (n, rest) := takeNumber rest
    (some (.fixed n), rest)
  | cs => (none, cs)

/-- One letter for the size of a number, which says nothing. -/
def dropSize : List Char → List Char
  | 'h' :: rest | 'l' :: rest | 'L' :: rest => rest
  | cs => cs

/-- The placeholder after a percent sign, and the rest; `total` is the
length of the whole template. -/
def takePlaceholder (total : Nat) (cs : List Char) : Piece × List Char :=
  let keyed : Option (Option String × List Char) := match cs with
    | '(' :: rest => (takeKey 0 rest).map fun (key, rest) => (some (String.ofList key), rest)
    | _ => some (none, cs)
  match keyed with
  | none => (.openKey, [])
  | some (key, rest) =>
    let (flags, rest) := takeFlags {} rest
    let (width, rest) := takeWidth rest
    let (precision, rest) := takePrecision rest
    let (conversion, rest) := match dropSize rest with
      | [] => (none, [])
      | c :: after => (some (c, total - after.length - 1), after)
    (.placeholder ⟨key, flags, width, precision, conversion⟩, rest)

/-- The pieces of a template, given enough fuel for its characters. Two
percent signs are a percent sign. -/
def piecesFrom (total : Nat) : Nat → List Char → List Piece
  | 0, _ => []
  | _, [] => []
  | fuel + 1, '%' :: '%' :: rest => .text '%' :: piecesFrom total fuel rest
  | fuel + 1, '%' :: rest =>
    let (piece, rest) := takePlaceholder total rest
    piece :: piecesFrom total fuel rest
  | fuel + 1, c :: rest => .text c :: piecesFrom total fuel rest

/-- The pieces of a template. -/
def pieces (template : String) : List Piece :=
  let cs := template.toList
  piecesFrom cs.length cs.length cs

/-- What is left of the arguments, and the map they came from. -/
structure Supply where
  left : List Value
  mapping : Option (List (Value × Value))

/-- The arguments that a caller gives: a single map that is not empty
names them, and a placeholder without a name may take it whole. -/
def Supply.of : List Value → Supply
  | [.map (entry :: rest)] => ⟨[.map (entry :: rest)], some (entry :: rest)⟩
  | items => ⟨items, none⟩

/-- The next argument. -/
def Supply.next (s : Supply) : Except TemplateError (Value × Supply) :=
  match s.left with
  | v :: rest => .ok (v, { s with left := rest })
  | [] => .error .tooFewArguments

/-- The arguments narrowed to the value of a key. -/
def Supply.select (s : Supply) (key : String) : Except TemplateError Supply :=
  match s.mapping with
  | none => .error .needsMapping
  | some entries =>
    match entries.find? fun e => match e.1 with
      | .string k => k = key
      | _ => false with
    | some e => .ok { s with left := [e.2] }
    | none => .error (.missingKey key)

/-- How large an amount may be, the name of the kind of number that
holds it, and the error of a larger one that is written down. -/
structure Bound where
  limit : Nat
  kind : String
  error : TemplateError

/-- The bound of widths. -/
def widthBound : Bound := ⟨Nat.pow 2 63, "ssize_t", .widthTooBig⟩

/-- The bound of precisions. -/
def precisionBound : Bound := ⟨Nat.pow 2 31, "int", .precisionTooBig⟩

/-- A whole number that an argument gives for an amount. -/
def amountOf (b : Bound) : Value → Except TemplateError Int
  | .number (.int n) =>
    if n < b.limit && -n ≤ b.limit then .ok n else .error (.amountTooBig b.kind)
  | .bool b => .ok (if b then 1 else 0)
  | _ => .error .notAWidth

/-- The amount of a width or a precision. -/
def Supply.amount (s : Supply) (b : Bound) (amount : Option Amount) :
    Except TemplateError (Option Int × Supply) := do
  match amount with
  | none => return (none, s)
  | some (.fixed n) => if n < b.limit then return (some (n : Int), s) else throw b.error
  | some .argument =>
    let (v, s) ← s.next
    let n ← amountOf b v
    return (some n, s)

/-- The parts of a converted argument before it is laid out. -/
structure Converted where
  /-- A sign may stand in front, and zeros after it. -/
  numeric : Bool
  negative : Bool := false
  /-- What stands between the sign and the zeros. -/
  marker : List Char := []
  body : List Char

/-- A text, cut to a precision. -/
def cutText (precision : Option Int) (text : String) : Converted :=
  ⟨false, false, [], match precision with
    | some p => text.toList.take p.toNat
    | none => text.toList⟩

/-- Digits with zeros in front, up to a precision. -/
def padDigits (precision : Option Int) (digits : List Char) : List Char :=
  List.replicate ((precision.getD 0).toNat - digits.length) '0' ++ digits

/-- The whole number of an argument to a decimal conversion. -/
def wholeNumber (conversion : Char) : Value → Except TemplateError Int
  | .number (.int n) => .ok n
  | .bool b => .ok (if b then 1 else 0)
  | .number (.double (.infinite _)) => .error .infiniteInteger
  | .number (.double x) => match x.truncate? with
    | some n => .ok n
    | none => .error .noInteger
  | v => .error (.notANumber conversion v.kindName)

/-- The whole number of an argument to a conversion by powers of two. -/
def exactInteger (conversion : Char) : Value → Except TemplateError Int
  | .number (.int n) => .ok n
  | .bool b => .ok (if b then 1 else 0)
  | v => .error (.notAnInteger conversion v.kindName)

/-- The base in which a conversion writes whole numbers. -/
def baseOf (conversion : Char) : Nat :=
  if conversion = 'x' || conversion = 'X' then 16 else if conversion = 'o' then 8 else 10

/-- A converted whole number. -/
def convertInt (flags : Flags) (precision : Option Int) (conversion : Char) (n : Int) :
    Converted :=
  let base := baseOf conversion
  let digits := padDigits precision (Nat.toDigits base n.natAbs)
  let marker := if flags.alternate && base != 10 then ['0', conversion] else []
  let digits := if conversion = 'X' then digits.map Char.toUpper else digits
  ⟨true, n < 0, marker, digits⟩

/-- The number of an argument to a conversion with a fraction. -/
def realNumber : Value → Except TemplateError Double
  | .number (.double x) => .ok x
  | .number (.int n) => match Double.ofInt? n with
    | some x => .ok x
    | none => .error .integerTooLarge
  | .bool b => .ok (.ofInt (if b then 1 else 0))
  | v => .error (.notAReal v.kindName)

/-- A converted number with a fraction. -/
def convertReal (flags : Flags) (precision : Option Int) (conversion : Char) (x : Double) :
    Converted :=
  let places := (precision.getD 6).toNat
  let (negative, body) := match x with
    | .nan => (false, ['n', 'a', 'n'])
    | .infinite negative => (negative, ['i', 'n', 'f'])
    | .finite negative units => (negative,
        if conversion = 'f' || conversion = 'F' then Double.fixedPlaces flags.alternate units places
        else if conversion = 'e' || conversion = 'E' then
          Double.scientificPlaces flags.alternate units places
        else Double.generalPlaces flags.alternate units places)
  let body := if conversion.isUpper then body.map Char.toUpper else body
  ⟨true, negative, [], body⟩

/-- The character of an argument. -/
def convertChar : Value → Except TemplateError Converted
  | .number (.int n) =>
    if 0 ≤ n && n < 0x110000 then .ok ⟨false, false, [], [Char.ofNat n.toNat]⟩
    else .error .characterOutOfRange
  | .bool b => .ok ⟨false, false, [], [Char.ofNat (if b then 1 else 0)]⟩
  | .string s => match s.toList with
    | [c] => .ok ⟨false, false, [], [c]⟩
    | _ => .error .notACharacter
  | _ => .error .notACharacter

/-- An argument converted as a letter asks that stands at an index. -/
def convert (flags : Flags) (precision : Option Int) (c : Char) (index : Nat) (v : Value) :
    Except TemplateError Converted :=
  if c = 's' then .ok (cutText precision v.display)
  else if c = 'r' then .ok (cutText precision v.literal)
  else if c = 'a' then .ok (cutText precision (Text.asciiOnly v.literal))
  else if c = 'd' || c = 'i' || c = 'u' then
    (wholeNumber c v).map (convertInt flags precision c)
  else if c = 'x' || c = 'X' || c = 'o' then
    (exactInteger c v).map (convertInt flags precision c)
  else if c = 'e' || c = 'E' || c = 'f' || c = 'F' || c = 'g' || c = 'G' then
    (realNumber v).map (convertReal flags precision c)
  else if c = 'c' then convertChar v
  else .error (.unknownConversion c index)

/-- A converted argument, laid out in its width. -/
def layOut (flags : Flags) (width : Option Int) (c : Converted) : List Char :=
  let sign := if !c.numeric then [] else if c.negative then ['-'] else if flags.plus then ['+']
    else if flags.blank then [' '] else []
  let left := flags.left || (width.getD 0) < 0
  -- The difference stops at zero: a text wider than its field stands as it is.
  let missing := (width.getD 0).natAbs - (sign ++ c.marker ++ c.body).length
  if left then sign ++ c.marker ++ c.body ++ List.replicate missing ' '
  else if flags.zero && c.numeric then sign ++ c.marker ++ List.replicate missing '0' ++ c.body
  else List.replicate missing ' ' ++ sign ++ c.marker ++ c.body

/-- One placeholder filled in. -/
def fill (p : Placeholder) (s : Supply) : Except TemplateError (List Char × Supply) := do
  let s ← match p.key with
    | some key => s.select key
    | none => .ok s
  let (width, s) ← s.amount widthBound p.width
  let (precision, s) ← s.amount precisionBound p.precision
  match p.conversion with
  -- Amounts have been taken from the arguments by now, and their errors come first.
  | none => throw .incomplete
  | some (c, index) => do
    let (v, s) ← s.next
    let converted ← convert p.flags precision c index v
    return (layOut p.flags width converted, s)

/-- Pieces filled in one after the other. Arguments that come in a row
must all be used. -/
def renderPieces (s : Supply) : List Piece → Except TemplateError (List Char)
  | [] => if s.mapping.isNone && !s.left.isEmpty then .error .tooManyArguments else .ok []
  | .text c :: rest => do
    let after ← renderPieces s rest
    return c :: after
  | .placeholder p :: rest => do
    let (front, s) ← fill p s
    let after ← renderPieces s rest
    return front ++ after
  | .openKey :: _ => .error (if s.mapping.isNone then .needsMapping else .incompleteKey)

/-- The message of a template and its arguments. -/
def render (template : String) (args : List Value) : Except TemplateError String :=
  if args.isEmpty then .ok template
  else (renderPieces (Supply.of args) (pieces template)).map String.ofList

end QueryGuard.Log.Template
