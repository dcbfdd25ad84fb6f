import LayerNet.Text.Search

/-!
# Reading numbers

A number is read digit by digit into a coefficient and a power of ten, exactly; the float is the one
nearest to it, and of two equally near the even one.

Main definitions:

- `nearest`: the float nearest to a decimal.
- `float?`: floats as they are typed in settings and options.
- `word64?`: unsigned numbers below `2 ^ 64`.
-/

namespace LayerNet.Decimal

/-! ## Digits -/

/-- The value of a decimal digit. -/
def digitValue (c : Char) : Nat :=
  c.toNat - 48

/-- The number that a run of decimal digits writes. -/
def natOfDigits (ds : List Char) : Nat :=
  ds.foldl (fun n c => 10 * n + digitValue c) 0

/-- A first run of decimal digits and the rest. -/
def spanDigits (cs : List Char) : List Char × List Char :=
  (cs.takeWhile Char.isDigit, cs.dropWhile Char.isDigit)

/-! ## The nearest float -/

/-- Zero or infinity or the float nearest to `coefficient * 10 ^ exponent`; the first two are
found by size alone, so that an absurd exponent costs nothing. -/
def nearest (negative : Bool) (coefficient : Nat) (exponent : Int) : Float :=
  let size : Int := (Nat.toDigits 10 coefficient).length + exponent
  let magnitude : Float :=
    if coefficient = 0 ∨ size < -330 then 0.0
    else if 310 < size then Float.ofBits 0x7FF0000000000000
    else Float.ofScientific coefficient (exponent < 0) exponent.natAbs
  if negative then -magnitude else magnitude

/-! ## Unsigned words -/

/-- An unsigned number below `2 ^ 64`: digits, with one `+` in front allowed. -/
def word64? (s : String) : Option Nat :=
  let ds := match s.toList with
    | '+' :: rest => rest
    | cs => cs
  if ds.isEmpty || !ds.all Char.isDigit then none
  else
    let n := natOfDigits ds
    if n < UInt64.size then some n else none

/-! ## Floats -/

/-- The exponent part of a float: nothing, or `e`, an optional sign and digits up to the end. -/
def exponentPart? : List Char → Option Int
  | [] => some 0
  | c :: cs =>
    if c = 'e' ∨ c = 'E' then
      let (negative, ds) := match cs with
        | '-' :: rest => (true, rest)
        | '+' :: rest => (false, rest)
        | rest => (false, rest)
      if ds.isEmpty || !ds.all Char.isDigit then none
      else if negative then some (-(natOfDigits ds : Int)) else some (natOfDigits ds)
    else none

/-- The digits around an optional point, of which at least one is there, and the exponent. -/
def unsignedFloat? (negative : Bool) (cs : List Char) : Option Float :=
  let (whole, rest) := spanDigits cs
  let (fraction, rest) := match rest with
    | '.' :: rest => spanDigits rest
    | rest => ([], rest)
  if whole.isEmpty && fraction.isEmpty then none
  else (exponentPart? rest).map fun e =>
    nearest negative (natOfDigits (whole ++ fraction)) (e - fraction.length)

/-- A float as it is typed: an optional sign, then digits with an optional point and exponent, or
one of `inf`, `infinity` and `nan` in any case. -/
def float? (s : String) : Option Float :=
  let (negative, body) := match s.toList with
    | '-' :: rest => (true, rest)
    | '+' :: rest => (false, rest)
    | cs => (false, cs)
  let word := String.ofList (body.map Char.toLower)
  let signed (x : Float) : Float := if negative then -x else x
  if word = "inf" || word = "infinity" then some (signed (Float.ofBits 0x7FF0000000000000))
  else if word = "nan" then some (signed (Float.ofBits 0x7FF8000000000000))
  else unsignedFloat? negative body

end LayerNet.Decimal
