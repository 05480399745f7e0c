import QueryGuard.Number.Double

/-!
# `QueryGuard.Number.Shortest`: the text of a double

A double is written with the fewest digits that read back as it, and
among those with the digits nearest to it. Positional notation is used
from a ten-thousandth up to below ten to the sixteenth, always with a
fraction part; elsewhere a power of ten follows, its exponent signed
and of two digits at least.
-/

set_option autoImplicit false

namespace QueryGuard.Double

/-- The exponent of the first digit of a positive number of units
below one: how far the point moves right until a digit stands before
it. -/
def leadingBelowOne (units : Nat) : Int :=
  match (List.range 400).find? fun j => unitsPerOne ≤ units * Nat.pow 10 j with
  | some j => -(j : Int)
  | none => -400

/-- The power of ten of the first significant digit. -/
def leadingExponent (units : Nat) : Int :=
  let whole := units / unitsPerOne
  if whole = 0 then leadingBelowOne units
  else ((Nat.toDigits 10 whole).length : Int) - 1

/-- A decimal number `digits` times ten to the `exponent` reads back as
the double of `units`: it lies within half a step on either side, the
ends included if the last significant bit is even. Below a power of two
the steps are half as long. -/
def readsBack (units digits : Nat) (exponent : Int) : Bool :=
  let spare := spareBits units
  let step := Nat.pow 2 spare
  -- All numbers below are in quarters of a unit, so that half a short step is a whole number.
  let lowGap := if units = Nat.pow 2 (52 + spare) && spare != 0 then step else 2 * step
  let num := 4 * digits * Nat.pow 10 exponent.toNat * unitsPerOne
  let den := Nat.pow 10 (-exponent).toNat
  let low := (4 * units - lowGap) * den
  let high := (4 * units + 2 * step) * den
  if units / step % 2 = 0 then low ≤ num && num ≤ high else low < num && num < high

/-- The two neighbours of a number of units on the grid of the powers
`exponent` of ten, and which of them is the nearer. -/
def gridNeighbours (units : Nat) (exponent : Int) : Nat × Nat × Nat :=
  let num := units * Nat.pow 10 (-exponent).toNat
  let den := unitsPerOne * Nat.pow 10 exponent.toNat
  (num / den, num / den + 1, roundDiv num den)

/-- The digits on one grid that read back, the nearer of two. -/
def digitsOnGrid? (units : Nat) (exponent : Int) : Option Nat :=
  let (below, above, nearest) := gridNeighbours units exponent
  if readsBack units nearest exponent then some nearest
  else if readsBack units below exponent then some below
  else if readsBack units above exponent then some above
  else none

/-- Drop zeros at the end, counting each into the exponent. -/
def dropTrailingZeros : Nat → Nat → Int → Nat × Int
  | 0, digits, exponent => (digits, exponent)
  | fuel + 1, digits, exponent =>
    if digits % 10 = 0 && digits != 0 then dropTrailingZeros fuel (digits / 10) (exponent + 1)
    else (digits, exponent)

/-- The shortest digits, with the power of ten of the last one. -/
def shortest (units : Nat) : Nat × Int :=
  let lead := leadingExponent units
  -- Seventeen digits tell any two doubles apart.
  let found := (List.range 17).findSome? fun (n : Nat) =>
    let exponent := lead - n
    (digitsOnGrid? units exponent).map (·, exponent)
  match found with
  | some (digits, exponent) => dropTrailingZeros 20 digits exponent
  | none => (roundDiv units unitsPerOne, 0)

/-- The text of a positive number of units. -/
def unitsText (units : Nat) : String :=
  let (digits, exponent) := shortest units
  let ds := Nat.toDigits 10 digits
  let lead : Int := exponent + ds.length - 1
  if lead < -4 || 16 ≤ lead then
    let mantissa := match ds with
      | [d] => [d]
      | d :: rest => d :: '.' :: rest
      | [] => []
    let e := Nat.toDigits 10 lead.natAbs
    let e := if e.length < 2 then '0' :: e else e
    String.ofList (mantissa ++ 'e' :: (if lead < 0 then '-' else '+') :: e)
  else if lead < 0 then
    String.ofList ('0' :: '.' :: List.replicate (lead.natAbs - 1) '0' ++ ds)
  else if 0 ≤ exponent then
    String.ofList (ds ++ List.replicate exponent.toNat '0' ++ ['.', '0'])
  else
    String.ofList (ds.take (lead.toNat + 1) ++ '.' :: ds.drop (lead.toNat + 1))

/-- The text of a double. -/
def text : Double → String
  | .nan => "nan"
  | .infinite false => "inf"
  | .infinite true => "-inf"
  | .finite negative units =>
    (if negative then "-" else "") ++ (if units = 0 then "0.0" else unitsText units)

end QueryGuard.Double
