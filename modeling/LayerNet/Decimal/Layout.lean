import LayerNet.Decimal.Shortest

/-!
# How numbers are laid out

The digits of a float are those of its shortest decimal.  They are laid out in one of two ways: as
in a data document, where very large and very small numbers have an exponent and a whole number
keeps `.0`, or as in a message, always positional and without a superfluous `.0`.  For a value that
is halfway between two shortest decimals a document has the even one and a message the larger one.

Main definitions:

- `Layout`: the choices that make up a way of writing floats.
- `Layout.document`, `Layout.message`: the two ways.
- `Layout.render`: the text of a finite float.
-/

namespace LayerNet.Decimal

/-- A way of writing finite floats: the decimal of a value halfway between two, the exponents of the
leading digit that are written out in full, and whether a whole number ends with `.0`. -/
structure Layout where
  /-- which of two equally near decimals is written -/
  tie : Tie
  /-- whether a leading digit with this exponent is written positionally -/
  positional : Int → Bool
  /-- whether `.0` is added to a whole number -/
  keepsPoint : Bool

namespace Layout

/-- Documents write exponents from -5 to 15 in full and keep `.0`. -/
def document : Layout where
  tie := .toEven
  positional e := -5 ≤ e && e < 16
  keepsPoint := true

/-- Messages write every number in full and drop `.0`. -/
def message : Layout where
  tie := .up
  positional _ := true
  keepsPoint := false

/-- Digits with the point after the digit of exponent zero; the first digit has exponent `e`. -/
def fixed (layout : Layout) (ds : List Char) (e : Int) : List Char :=
  if e < 0 then '0' :: '.' :: List.replicate (-e - 1).toNat '0' ++ ds
  else
    let whole := e.toNat + 1
    if ds.length ≤ whole then
      ds ++ List.replicate (whole - ds.length) '0' ++ (if layout.keepsPoint then ['.', '0'] else [])
    else ds.take whole ++ '.' :: ds.drop whole

/-- An exponent with its sign. -/
def exponentChars (e : Int) : List Char :=
  'e' :: (if e < 0 then '-' else '+') :: digits e.natAbs

/-- Digits with the point after the first of them and an exponent. -/
def scientific (ds : List Char) (e : Int) : List Char :=
  match ds with
  | [] => exponentChars e
  | [d] => d :: exponentChars e
  | d :: rest => d :: '.' :: rest ++ exponentChars e

/-- The text of the decimal with the given sign. -/
def ofDecimal (layout : Layout) (negative : Bool) (d : Decimal) : String :=
  let ds := digits d.coefficient
  let e := d.exponent + ds.length - 1
  let body := if layout.positional e then layout.fixed ds e else scientific ds e
  String.ofList (if negative then '-' :: body else body)

/-- Whether the sign bit is set. -/
def isNegative (x : Float) : Bool :=
  Nat.pow 2 63 ≤ x.toBits.toNat

/-- The text of a finite float. -/
def render (layout : Layout) (x : Float) : String :=
  layout.ofDecimal (isNegative x) (shortest layout.tie x)

end Layout

/-- The text of a float in a document; only finite floats occur there. -/
def documentText (x : Float) : String :=
  Layout.document.render x

/-- The text of a float in a message. -/
def messageText (x : Float) : String :=
  if x.isNaN then "NaN"
  else if x.isInf then (if Layout.isNegative x then "-inf" else "inf")
  else Layout.message.render x

end LayerNet.Decimal
