import QueryGuard.Number.Rounding

/-!
# `QueryGuard.Number.Double`: floating-point numbers, exactly

A finite double is a whole number of units of the least positive one,
two to the minus 1074. Sums of doubles are whole numbers of units too,
so each operation computes its result exactly and rounds once: to 53
significant bits, to nearest, a tie to even. Numbers of units from two
to the 2098 on are too large and become infinite.
-/

set_option autoImplicit false

namespace QueryGuard

/-- A double: a sign and a number of units, an infinity, or no number
at all. -/
inductive Double where
  | finite (negative : Bool) (units : Nat)
  | infinite (negative : Bool)
  | nan
  deriving DecidableEq, Repr, Inhabited

namespace Double

/-- How many units make up the number one. -/
def unitsPerOne : Nat := Nat.pow 2 1074

/-- The least number of units that no finite double reaches. -/
def unitsLimit : Nat := Nat.pow 2 2098

/-- The bits below the 53 significant ones of a number of units. -/
def spareBits (units : Nat) : Nat := units.log2 - 52

/-- The number of units that rounds `num / den` units to 53 significant
bits. -/
def roundUnits (num den : Nat) : Nat :=
  let step := Nat.pow 2 (spareBits (num / den))
  roundDiv num (den * step) * step

/-- The double of a sign and a rounded number of units. -/
def ofUnits (negative : Bool) (units : Nat) : Double :=
  if units < unitsLimit then .finite negative units else .infinite negative

/-- The double nearest to `num / den`. -/
def ofRatio (negative : Bool) (num den : Nat) : Double :=
  ofUnits negative (roundUnits (num * unitsPerOne) den)

/-- Positive zero. -/
def zero : Double := .finite false 0

/-- The double nearest to a whole number. -/
def ofInt (n : Int) : Double := ofRatio (n < 0) n.natAbs 1

/-- A double that is a finite one. -/
def finite? : Double → Option Double
  | .finite s u => some (.finite s u)
  | _ => none

/-- The double nearest to a whole number, unless it is too large for a
finite one. -/
def ofInt? (n : Int) : Option Double := (ofInt n).finite?

/-- The double nearest to `digits` times ten to the `exponent`. Beyond
four hundred places on either side the answer is settled by the length
alone. -/
def ofDecimal (negative : Bool) (digits : Nat) (exponent : Int) : Double :=
  if digits = 0 then .finite negative 0
  else
    let places : Int := (Nat.toDigits 10 digits).length + exponent
    if 400 < places then .infinite negative
    else if places < -400 then .finite negative 0
    else ofRatio negative (digits * Nat.pow 10 exponent.toNat) (Nat.pow 10 (-exponent).toNat)

/-- The exact value in units, of a finite double. -/
def signedUnits? : Double → Option Int
  | .finite negative units => some (if negative then -(units : Int) else units)
  | _ => none

/-- A rounded exact result in units; an exact zero takes the sign
given. -/
def ofSigned (zeroNegative : Bool) (num : Int) (den : Nat) : Double :=
  if num = 0 then .finite zeroNegative 0
  else ofUnits (num < 0) (roundUnits num.natAbs den)

/-- The sum of two doubles. -/
def add : Double → Double → Double
  | .finite s a, .finite t b =>
    ofSigned (s && t)
      ((if s then -(a : Int) else a) + (if t then -(b : Int) else b)) 1
  | .infinite s, .finite _ _ => .infinite s
  | .finite _ _, .infinite t => .infinite t
  | .infinite s, .infinite t => if s = t then .infinite s else .nan
  | .nan, _ => .nan
  | _, .nan => .nan

/-- The number of the opposite sign. -/
def neg : Double → Double
  | .finite s a => .finite (!s) a
  | .infinite s => .infinite (!s)
  | .nan => .nan

/-- The difference of two doubles. -/
def sub (x y : Double) : Double := add x (neg y)

/-- The product of two doubles; zero times an infinity is no number. -/
def mul : Double → Double → Double
  | .finite s a, .finite t b => ofUnits (s != t) (roundUnits (a * b) unitsPerOne)
  | .infinite s, .finite t b => if b = 0 then .nan else .infinite (s != t)
  | .finite s a, .infinite t => if a = 0 then .nan else .infinite (s != t)
  | .infinite s, .infinite t => .infinite (s != t)
  | .nan, _ => .nan
  | _, .nan => .nan

/-- Order of doubles; no number is neither below nor above another. -/
def le : Double → Double → Bool
  | .nan, _ => false
  | _, .nan => false
  | .infinite true, _ => true
  | _, .infinite false => true
  | .infinite false, _ => false
  | _, .infinite true => false
  | .finite s a, .finite t b =>
    (if s then -(a : Int) else a) ≤ (if t then -(b : Int) else b)

/-- Strict order of doubles. -/
def lt (x y : Double) : Bool := le x y && !le y x

/-- The whole part, the fraction cut off, of a finite double. -/
def truncate? : Double → Option Int
  | .finite negative units =>
    -- Division cuts towards zero, since the sign stands apart.
    let whole : Nat := units / unitsPerOne
    some (if negative then -(whole : Int) else whole)
  | _ => none

/-- A finite double without a fraction. -/
def isWhole : Double → Bool
  | .finite _ units => units % unitsPerOne == 0
  | _ => false

/-- Seconds as microseconds: the whole seconds exactly, and the
fraction times a million, itself rounded as a product of doubles, to
the nearest microsecond, a tie to even. -/
def toMicroseconds? : Double → Option Int
  | .finite negative units =>
    let whole := units / unitsPerOne
    let scaled := roundUnits ((units % unitsPerOne) * 1000000) 1
    let micros : Nat := whole * 1000000 + roundDiv scaled unitsPerOne
    some (if negative then -(micros : Int) else micros)
  | _ => none

end Double

end QueryGuard
