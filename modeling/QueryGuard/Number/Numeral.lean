import QueryGuard.Number.Double
import QueryGuard.Text.Blank
import QueryGuard.Text.DecimalDigit

/-!
# `QueryGuard.Number.Numeral`: numbers that a user writes

Whole numbers and decimal fractions as texts: digits of any script,
single underscores between digits, a sign in front, blanks around. A
whole number of more than 4300 digits is refused for its length alone.
-/

set_option autoImplicit false

namespace QueryGuard

/-- A number of either kind, as documents and settings hold it. -/
inductive Number where
  | int (value : Int)
  | double (value : Double)
  deriving DecidableEq, Repr, Inhabited

/-- A number above zero; what is no number counts too, since it is not
zero or less. -/
def Number.isPositive : Number → Bool
  | .int n => 0 < n
  | .double x => !x.le Double.zero

namespace Numeral

/-- The most digits that a whole number is read from. -/
def maxDigits : Nat := 4300

/-- Why a text is no whole number. -/
inductive Fault where
  | malformed
  | tooLong (digits : Nat)
  deriving DecidableEq, Repr

/-- The wording for a numeral that is too long. -/
def tooLongMessage (digits : Nat) : String :=
  s!"Exceeds the limit ({maxDigits} digits) for integer string conversion: value has {digits} " ++
    "digits; use sys.set_int_max_str_digits() to increase the limit"

/-- The number that a row of digit values writes, unless there are too
many of them. -/
def ofDigits (digits : List Nat) : Except Fault Nat :=
  if maxDigits < digits.length then .error (.tooLong digits.length)
  else .ok (Text.numberOfDigits digits)

/-- The blanks that may stand around a numeral; the information
separators may not. -/
def isPadding (c : Char) : Bool :=
  Text.isBlankChar c && !(0x1c ≤ c.toNat && c.toNat ≤ 0x1f)

/-- A row of characters without the padding at either end. -/
def unpad (cs : List Char) : List Char :=
  ((cs.dropWhile isPadding).reverse.dropWhile isPadding).reverse

/-- The sign in front, true for a minus, and what follows it. -/
def splitSign : List Char → Bool × List Char
  | '-' :: rest => (true, rest)
  | '+' :: rest => (false, rest)
  | rest => (false, rest)

/-- The values of one or more digits, with single underscores allowed
between them. -/
def groupedDigits? : List Char → Option (List Nat)
  | [] => none
  | [c] => (Text.digitValue? c).map ([·])
  | c :: '_' :: rest => do
    let d ← Text.digitValue? c
    let ds ← groupedDigits? rest
    return d :: ds
  | c :: rest => do
    let d ← Text.digitValue? c
    let ds ← groupedDigits? rest
    return d :: ds

/-- A whole number. -/
def readInt (s : String) : Except Fault Int :=
  let (negative, cs) := splitSign (unpad s.toList)
  match groupedDigits? cs with
  | none => .error .malformed
  | some ds => do
    let n ← ofDigits ds
    return if negative then -(n : Int) else n

/-- The exponent part of a decimal fraction, absent from an empty
rest. -/
def exponent? : List Char → Option Int
  | [] => some 0
  | c :: rest =>
    if c = 'e' || c = 'E' then
      let (negative, cs) := splitSign rest
      (groupedDigits? cs).map fun ds =>
        let n : Nat := Text.numberOfDigits ds
        if negative then -(n : Int) else n
    else none

/-- The digits of a part that may be empty. -/
def optionalDigits? (cs : List Char) : Option (List Nat) :=
  if cs.isEmpty then some [] else groupedDigits? cs

/-- An unsigned decimal fraction: digits with a point in or beside
them, then perhaps an exponent. -/
def unsignedDouble? (negative : Bool) (cs : List Char) : Option Double := do
  let isMark := fun c => c = 'e' || c = 'E'
  let mantissa := cs.takeWhile fun c => !isMark c
  let e ← exponent? (cs.dropWhile fun c => !isMark c)
  let whole ← optionalDigits? (mantissa.takeWhile (· != '.'))
  let fraction ← optionalDigits? ((mantissa.dropWhile (· != '.')).drop 1)
  guard (!(whole ++ fraction).isEmpty)
  return Double.ofDecimal negative (Text.numberOfDigits (whole ++ fraction))
    (e - fraction.length)

/-- A decimal fraction, an infinity or the name for no number. -/
def readDouble? (s : String) : Option Double :=
  let (negative, cs) := splitSign (unpad s.toList)
  let word := String.ofList (cs.map Char.toLower)
  if word = "inf" || word = "infinity" then some (.infinite negative)
  else if word = "nan" then some .nan
  else unsignedDouble? negative cs

end Numeral

end QueryGuard
