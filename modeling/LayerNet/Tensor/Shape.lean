import LayerNet.Decimal.Digits
import LayerNet.Json.Basic

/-!
# Shapes

A shape lists the sizes of a tensor's dimensions; the batch dimension has no fixed size.

Main definitions:

- `Shape.batched`: a batch dimension before fixed sizes.
- `Shape.isValid`: what an input layer asks of its shape.
-/

namespace LayerNet

/-- The size of one dimension: the batch, or a fixed number. -/
inductive Dimension where
  | batch
  | fixed (size : Nat)
deriving DecidableEq, Repr

namespace Dimension

/-- The size as it is shown in messages. -/
def text : Dimension → String
  | batch => "?"
  | fixed n => Decimal.natText n

/-- The size in a document. -/
def toJson : Dimension → Json
  | batch => .null
  | fixed n => .ofNat n

/-- Whether the size is a fixed positive number. -/
def isPositive : Dimension → Bool
  | batch => false
  | fixed n => 0 < n

end Dimension

/-- The sizes of the dimensions of a tensor. -/
structure Shape where
  dimensions : List Dimension
deriving DecidableEq, Repr

namespace Shape

/-- A batch dimension before fixed sizes. -/
def batched (sizes : List Nat) : Shape :=
  ⟨.batch :: sizes.map .fixed⟩

/-- The dimensions behind the first. -/
def withoutBatch (shape : Shape) : List Dimension :=
  shape.dimensions.tail

/-- Whether there is a first dimension and all others are positive. -/
def isValid (shape : Shape) : Bool :=
  !shape.dimensions.isEmpty && shape.withoutBatch.all Dimension.isPositive

/-- The shape as it is shown in messages. -/
def text (shape : Shape) : String :=
  "(" ++ ", ".intercalate (shape.dimensions.map Dimension.text) ++ ")"

/-- The shape in a document. -/
def toJson (shape : Shape) : Json :=
  .arr (shape.dimensions.map Dimension.toJson)

end Shape

end LayerNet
