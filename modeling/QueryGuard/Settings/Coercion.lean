import QueryGuard.Json.Basic
import QueryGuard.Text.Split

/-!
# `QueryGuard.Settings.Coercion`: settings read from what was given

Settings come as texts from the environment and as documents from
callers. A reader takes whatever says the same thing: a whole number
may come as a text or as a fraction with nothing after its point, a
switch as one of the usual words. What does not fit is a problem of
some kind.
-/

set_option autoImplicit false

namespace QueryGuard

/-- What is wrong with a setting. -/
inductive SettingProblem where
  | notAText
  | notAnInteger
  | unreadableInteger
  | integerTooLong
  | fractional
  | notFinite
  | notANumber
  | unreadableNumber
  | notASwitch
  | unreadableSwitch
  | tooSmall
  | notAbove
  deriving DecidableEq, Repr

/-- The code of a problem. -/
def SettingProblem.code : SettingProblem → String
  | .notAText => "string_type"
  | .notAnInteger => "int_type"
  | .unreadableInteger => "int_parsing"
  | .integerTooLong => "int_parsing_size"
  | .fractional => "int_from_float"
  | .notFinite => "finite_number"
  | .notANumber => "float_type"
  | .unreadableNumber => "float_parsing"
  | .notASwitch => "bool_type"
  | .unreadableSwitch => "bool_parsing"
  | .tooSmall => "greater_than_equal"
  | .notAbove => "greater_than"

namespace Coercion

/-- A text. -/
def text : Json → Except SettingProblem String
  | .string s => .ok s
  | _ => .error .notAText

/-- A text that may be missing. -/
def text? : Json → Except SettingProblem (Option String)
  | .null => .ok none
  | j => (text j).map some

/-- The characters without underscores, where each of those stands
between two others that are none. -/
def dropUnderscores? (cs : List Char) : Option (List Char) :=
  let runs := Text.splitAt '_' cs
  if runs.any List.isEmpty then none else some runs.flatten

/-- A row of one or more digits of ASCII. -/
def asciiNumber? (cs : List Char) : Option Nat :=
  if !cs.isEmpty && cs.all Text.isAsciiDigit then
    some (Text.numberOfDigits (cs.map (·.toNat - 0x30)))
  else none

/-- The whole part of a numeral whose fraction holds zeros only; a
numeral without a whole part has none. -/
def wholePart? (cs : List Char) : Option (List Char) :=
  match Text.cutAt? '.' cs with
  | none => some cs
  | some (whole, fraction) =>
    if !whole.isEmpty && fraction.all (· = '0') then some whole else none

/-- The whole number that a text writes. -/
def readInteger? (cs : List Char) : Option Int := do
  let (negative, unsigned) := Numeral.splitSign cs
  let whole ← wholePart? unsigned
  let digits ← dropUnderscores? whole
  let n ← asciiNumber? digits
  return if negative then -(n : Int) else n

/-- The greatest size of a fraction that is taken for a whole
number. -/
def wholeLimit : Double := .ofInt (Nat.pow 2 63)

/-- A whole number from a fraction. -/
def ofDouble (x : Double) : Except SettingProblem Int :=
  match x.truncate? with
  | none => .error .notFinite
  | some n =>
    if !x.isWhole then .error .fractional
    else if x.le wholeLimit && wholeLimit.neg.le x then .ok n
    else .error .integerTooLong

/-- A whole number. -/
def integer : Json → Except SettingProblem Int
  | .number (.int n) => .ok n
  | .number (.double x) => ofDouble x
  | .bool b => .ok (if b then 1 else 0)
  | .string s =>
    let cs := Numeral.unpad s.toList
    -- The length is checked before the digits are, so that junk of that length is too long too.
    if Numeral.maxDigits < cs.length then .error .integerTooLong
    else match readInteger? cs with
      | some n => .ok n
      | none => .error .unreadableInteger
  | _ => .error .notAnInteger

/-- A whole number that is not below a least one. -/
def integerFrom (least : Int) (j : Json) : Except SettingProblem Int := do
  let n ← integer j
  if least ≤ n then return n else throw .tooSmall

/-- The number that a text writes. -/
def readNumber? (cs : List Char) : Option Double :=
  if cs.all (·.toNat < 0x80) then
    (dropUnderscores? cs).bind fun digits => Numeral.readDouble? (String.ofList digits)
  else none

/-- A number. -/
def number : Json → Except SettingProblem Double
  | .number (.double x) => .ok x
  | .number (.int n) => match Double.ofInt? n with
    | some x => .ok x
    | none => .error .notANumber
  | .bool b => .ok (.ofInt (if b then 1 else 0))
  | .string s => match readNumber? (Numeral.unpad s.toList) with
    | some x => .ok x
    | none => .error .unreadableNumber
  | _ => .error .notANumber

/-- A number above zero. -/
def positive (j : Json) : Except SettingProblem Double := do
  let x ← number j
  if Double.zero.lt x then return x else throw .notAbove

/-- The words for on. -/
def onWords : List String := ["1", "true", "t", "yes", "y", "on"]

/-- The words for off. -/
def offWords : List String := ["0", "false", "f", "no", "n", "off"]

/-- The switch that a word sets. -/
def readSwitch? (s : String) : Option Bool :=
  let word := s.map Char.toLower
  if onWords.contains word then some true
  else if offWords.contains word then some false
  else none

/-- The switch that a number sets: one for on, zero for off. -/
def switchOfInt (n : Int) : Except SettingProblem Bool :=
  if n = 1 then .ok true else if n = 0 then .ok false else .error .unreadableSwitch

/-- A switch. -/
def switch : Json → Except SettingProblem Bool
  | .bool b => .ok b
  | .string s => match readSwitch? s with
    | some b => .ok b
    | none => .error .unreadableSwitch
  | .number (.int n) => switchOfInt n
  | .number (.double x) => match x.truncate? with
    | some n => if x.isWhole then switchOfInt n else .error .notASwitch
    | none => .error .notASwitch
  | _ => .error .notASwitch

end Coercion

end QueryGuard
