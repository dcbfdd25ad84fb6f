import LayerNet.Decimal.Shortest

/-!
# Decimals with a given number of places

A number is rounded to a number of places, half of a last place to the even neighbour.

Main definitions:

- `roundedQuotient`: a quotient rounded to a whole number.
- `fixedPlaces`: a number with places behind the point.
- `scientificPlaces`: a number with places behind its first digit, and an exponent.
- `generalPlaces`: the shorter of both, by the size of the number.
-/

namespace LayerNet.Decimal

/-- A quotient rounded to the nearest whole number, a half to the even one. -/
def roundedQuotient (numerator denominator : Nat) : Nat :=
  let q := numerator / denominator
  let twice := 2 * (numerator % denominator)
  if twice < denominator then q
  else if denominator < twice then q + 1
  else if q % 2 = 0 then q else q + 1

/-- A number in units of `10 ^ step`, rounded. -/
def inUnits (b : Binary) (step : Int) : Nat :=
  let numerator := b.significand * Nat.pow 2 b.scale.toNat * Nat.pow 10 (-step).toNat
  let denominator := Nat.pow 2 (-b.scale).toNat * Nat.pow 10 step.toNat
  roundedQuotient numerator denominator

/-- Digits with a point before the last `places` of them. -/
def withPoint (places : Nat) (ds : List Char) : List Char :=
  let ds := List.replicate (places + 1 - ds.length) '0' ++ ds
  let whole := ds.length - places
  if places = 0 then ds else ds.take whole ++ '.' :: ds.drop whole

/-- A number with places behind the point. -/
def fixedPlaces (b : Binary) (places : Nat) : List Char :=
  withPoint places (digits (inUnits b (-places)))

/-- The digits of a number, one more than `places`, and the exponent of the first of them. -/
def roundedDigits (b : Binary) (places : Nat) : List Char × Int :=
  if b.significand = 0 then (List.replicate (places + 1) '0', 0)
  else
    let e := leadingExponent b
    let ds := digits (inUnits b (e - places))
    if places + 1 < ds.length then (ds.dropLast, e + 1) else (ds, e)

/-- An exponent with its sign and at least two digits. -/
def wideExponent (e : Int) : List Char :=
  let ds := digits e.natAbs
  'e' :: (if e < 0 then '-' else '+') :: (List.replicate (2 - ds.length) '0' ++ ds)

/-- A number with places behind its first digit, and an exponent. -/
def scientificPlaces (b : Binary) (places : Nat) : List Char :=
  let (ds, e) := roundedDigits b places
  withPoint places ds ++ wideExponent e

/-- Digits around a point less the zeros at their end. -/
def withoutZeros (cs : List Char) : List Char :=
  if cs.contains '.' then
    let kept := (cs.reverse.dropWhile (· = '0'))
    (if kept.head? = some '.' then kept.tail else kept).reverse
  else cs

/-- A number with as many digits as there are places, with an exponent if it is small or large. -/
def generalPlaces (b : Binary) (places : Nat) : List Char :=
  let places := max 1 places
  let (ds, e) := roundedDigits b (places - 1)
  if e < -4 || (places : Int) ≤ e then
    withoutZeros (withPoint (places - 1) ds) ++ wideExponent e
  else withoutZeros (fixedPlaces b ((places : Int) - 1 - e).toNat)

end LayerNet.Decimal
