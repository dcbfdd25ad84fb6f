import LayerNet.Decimal.Digits

/-!
# The shortest decimal that reads back

A finite binary64 value is `significand * 2 ^ scale`.  The reals that round to it form an interval
around it, with its ends when the significand is even.  Of the decimals in that interval the ones
with the fewest digits are wanted, and of those the nearest to the value.  Two can be equally near;
which of them is written is a choice that is left open.

For a number of digits the candidates are the two neighbours of the value on the grid of decimals
with that many digits: if any point of the grid lies in the interval, then one of these does.

Main definitions:

- `Binary`: the exact value of a positive finite float.
- `Decimal`: a coefficient times a power of ten.
- `Tie`: the choice between two decimals that are equally near.
- `shortest`: the decimal that is written for a value.
-/

namespace LayerNet

/-- The number `significand * 2 ^ scale`. -/
structure Binary where
  significand : Nat
  scale : Int
deriving DecidableEq, Repr

/-- The number `coefficient * 10 ^ exponent`. -/
structure Decimal where
  coefficient : Nat
  exponent : Int
deriving DecidableEq, Repr

/-- Which of two neighbours is written for a value halfway between them: the one with an even
coefficient, or the larger one. -/
inductive Tie where
  | toEven
  | up
deriving DecidableEq, Repr

/-- Whether the smaller neighbour, which has the coefficient `c`, is written for a value halfway. -/
def Tie.isDown : Tie → Nat → Bool
  | toEven, c => c % 2 = 0
  | up, _ => false

namespace Binary

/-- The exact size of a finite float; its sign is dropped. -/
def ofFloat (x : Float) : Binary :=
  let bits : Nat := x.toBits.toNat
  let field : Nat := bits / Nat.pow 2 52 % Nat.pow 2 11
  let fraction : Nat := bits % Nat.pow 2 52
  if field = 0 then ⟨fraction, -1074⟩ else ⟨fraction + Nat.pow 2 52, (field : Int) - 1075⟩

/-- Quarters of the significand's last place that the interval reaches below the value: two, but one
where the next smaller float is only half as far away. -/
def below (b : Binary) : Nat :=
  if b.significand = Nat.pow 2 52 ∧ -1074 < b.scale then 1 else 2

end Binary

namespace Decimal

/-! ## One grid -/

/-- The grid of multiples of `10 ^ step`, scaled so that comparisons are between naturals: `value`
quarters of a last place are `value * unit`, and the grid point `c` is `c * mesh`. -/
structure Grid where
  unit : Nat
  mesh : Nat

/-- The grid with the given step for a value of the given scale. -/
def grid (scale step : Int) : Grid where
  unit := Nat.pow 2 (scale - 2).toNat * Nat.pow 10 (-step).toNat
  mesh := Nat.pow 2 (2 - scale).toNat * Nat.pow 10 step.toNat

/-- Whether the grid point `c` reads back as the value. -/
def readsBack (b : Binary) (g : Grid) (c : Nat) : Bool :=
  let low := (4 * b.significand - b.below) * g.unit
  let high := (4 * b.significand + 2) * g.unit
  if b.significand % 2 = 0 then low ≤ c * g.mesh && c * g.mesh ≤ high
  else low < c * g.mesh && c * g.mesh < high

/-- The point of the grid that reads back and is nearest to the value. -/
def onGrid? (tie : Tie) (b : Binary) (g : Grid) : Option Nat :=
  let exact := 4 * b.significand * g.unit
  let c := exact / g.mesh
  match readsBack b g c, readsBack b g (c + 1) with
  | true, true =>
    let down := exact - c * g.mesh
    let up := (c + 1) * g.mesh - exact
    if down < up || (down = up && tie.isDown c) then some c else some (c + 1)
  | true, false => some c
  | false, true => some (c + 1)
  | false, false => none

/-! ## Size -/

/-- The exponent of the leading decimal digit of a positive value. -/
def leadingExponent (b : Binary) : Int :=
  let g := grid b.scale 0
  let num := 4 * b.significand * g.unit
  let guess := ((digits num).length : Int) - (digits g.mesh).length
  if g.mesh * Nat.pow 10 guess.toNat ≤ num * Nat.pow 10 (-guess).toNat then guess
  else guess - 1

/-- Takes trailing zeros out of the coefficient. -/
def normalized (c : Nat) (exponent : Int) : Decimal :=
  if h : c ≠ 0 ∧ c % 10 = 0 then normalized (c / 10) (exponent + 1) else ⟨c, exponent⟩
termination_by c
decreasing_by omega

/-! ## The shortest decimal -/

/-- Tries `count` more grids, from the one with the given step to finer ones. -/
def firstHit (tie : Tie) (b : Binary) : Nat → Int → Option Decimal
  | 0, _ => none
  | count + 1, step =>
    match onGrid? tie b (grid b.scale step) with
    | some c => some (normalized c step)
    | none => firstHit tie b count (step - 1)

/-- The shortest decimal that reads back as the size of the float; seventeen digits always do. -/
def shortest (tie : Tie) (x : Float) : Decimal :=
  let b := Binary.ofFloat x
  if b.significand = 0 then ⟨0, 0⟩
  else (firstHit tie b 17 (leadingExponent b)).getD ⟨0, 0⟩

end Decimal

end LayerNet
