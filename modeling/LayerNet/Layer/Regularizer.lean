import LayerNet.Layer.ClassRecord

/-!
# Regularizers

Penalties on weights that are added to the loss.
-/

namespace LayerNet

/-- A penalty on weights. -/
inductive Regularizer where
  | l1 (factor : Float)
  | l2 (factor : Float)
  | l1l2 (l1 l2 : Float)

namespace Regularizer

/-- The factor of a penalty when none is given. -/
def defaultFactor : Float := 0.01

/-- The class record of a regularizer. -/
def toJson : Regularizer → Json
  | l1 a => classRecord "L1" [("l1", .ofFloat a)]
  | l2 b => classRecord "L2" [("l2", .ofFloat b)]
  | l1l2 a b => classRecord "L1L2" [("l1", .ofFloat a), ("l2", .ofFloat b)]

end Regularizer

end LayerNet
