import LayerNet.Decimal.Digits

/-!
# Arities

How many layers may feed a layer.
-/

namespace LayerNet

/-- How many inputs a layer takes. -/
inductive Arity where
  | none
  | one
  | atLeast (min : Nat)
  | any
deriving DecidableEq, Repr

namespace Arity

/-- Whether a number of inputs is right. -/
def accepts : Arity → Nat → Bool
  | none, n => n = 0
  | one, n => n = 1
  | atLeast min, n => min ≤ n
  | any, _ => true

/-- The arity in words. -/
def text : Arity → String
  | none => "no"
  | one => "exactly 1"
  | atLeast min => "at least " ++ Decimal.natText min
  | any => "any number of"

end Arity

end LayerNet
