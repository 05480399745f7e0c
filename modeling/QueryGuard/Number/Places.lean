import QueryGuard.Number.Shortest

/-!
# `QueryGuard.Number.Places`: doubles to a given number of places

Three notations of the number that a row of units makes up: with so
many places after the point, with one digit before the point and a
power of ten, and whichever of the two suits the size of the number.
Each rounds the exact value once, a tie to even.
-/

set_option autoImplicit false

namespace QueryGuard.Double

/-- Digits with a point before the last `places` of them; no point
without places, unless it is asked for. -/
def pointed (keepPoint : Bool) (places : Nat) (digits : List Char) : List Char :=
  let padded := List.replicate (places + 1 - digits.length) '0' ++ digits
  let whole := padded.take (padded.length - places)
  if places = 0 then (if keepPoint then whole ++ ['.'] else whole)
  else whole ++ '.' :: padded.drop (padded.length - places)

/-- The value times ten to the `places`, rounded to a whole number. -/
def scaled (units : Nat) (places : Int) : Nat :=
  roundDiv (units * Nat.pow 10 places.toNat) (unitsPerOne * Nat.pow 10 (-places).toNat)

/-- The number with so many places after the point. -/
def fixedPlaces (keepPoint : Bool) (units places : Nat) : List Char :=
  pointed keepPoint places (Nat.toDigits 10 (scaled units places))

/-- The first `count` significant digits as a number, and the power of
ten of the first. -/
def significant (units count : Nat) : Nat × Int :=
  if units = 0 then (0, 0)
  else
    let lead := leadingExponent units
    let n := scaled units (count - 1 - lead)
    if n < Nat.pow 10 count then (n, lead) else (n / 10, lead + 1)

/-- The power of ten after its mark: a sign and two digits at least. -/
def exponentText (e : Int) : List Char :=
  let digits := Nat.toDigits 10 e.natAbs
  'e' :: (if e < 0 then '-' else '+') :: (if digits.length < 2 then '0' :: digits else digits)

/-- The number with one digit before the point, so many after it, and
its power of ten. -/
def scientificPlaces (keepPoint : Bool) (units places : Nat) : List Char :=
  let (n, e) := significant units (places + 1)
  pointed keepPoint places (Nat.toDigits 10 n) ++ exponentText e

/-- A row of digits without the zeros after its point, and without the
point where nothing follows it. -/
def dropZeros (digits : List Char) : List Char :=
  if digits.contains '.' then
    let back := digits.reverse.dropWhile (· = '0')
    (match back with
      | '.' :: rest => rest
      | rest => rest).reverse
  else digits

/-- The number with so many significant digits, in positional notation
unless its power of ten is below minus four or beyond the digits.
Zeros at the end are left out, unless they are asked for. -/
def generalPlaces (keepZeros : Bool) (units places : Nat) : List Char :=
  let count := if places = 0 then 1 else places
  let (n, e) := significant units count
  let tidy := fun digits => if keepZeros then digits else dropZeros digits
  if -4 ≤ e && e < count then
    tidy (fixedPlaces keepZeros units ((count : Int) - 1 - e).toNat)
  else tidy (pointed keepZeros (count - 1) (Nat.toDigits 10 n)) ++ exponentText e

end QueryGuard.Double
