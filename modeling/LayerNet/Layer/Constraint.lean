import LayerNet.Layer.ClassRecord

/-!
# Constraints

Projections of weights after each update.
-/

namespace LayerNet

/-- A projection of weights. -/
inductive Constraint where
  | maxNorm (maxValue : Float) (axis : Int)
  | minMaxNorm (minValue maxValue rate : Float) (axis : Int)
  | nonNegative
  | unitNorm (axis : Int)
  | radial

namespace Constraint

/-- The class record of a constraint. -/
def toJson : Constraint → Json
  | maxNorm maxValue axis =>
    classRecord "MaxNorm" [("max_value", .ofFloat maxValue), ("axis", .int axis)]
  | minMaxNorm minValue maxValue rate axis =>
    classRecord "MinMaxNorm"
      [("min_value", .ofFloat minValue), ("max_value", .ofFloat maxValue), ("rate", .ofFloat rate),
       ("axis", .int axis)]
  | nonNegative => classRecord "NonNeg" []
  | unitNorm axis => classRecord "UnitNorm" [("axis", .int axis)]
  | radial => classRecord "RadialConstraint" []

end Constraint

end LayerNet
