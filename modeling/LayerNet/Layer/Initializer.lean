import LayerNet.Layer.ClassRecord

/-!
# Initializers

How the weights of a layer get their first values.
-/

namespace LayerNet

/-- A rule for the first values of weights. -/
inductive Initializer where
  | zeros
  | ones
  | constant (value : Float)
  | randomNormal (mean stddev : Float) (seed : Option Nat)
  | randomUniform (minval maxval : Float) (seed : Option Nat)
  | truncatedNormal (mean stddev : Float) (seed : Option Nat)
  | glorotNormal (seed : Option Nat)
  | glorotUniform (seed : Option Nat)
  | heNormal (seed : Option Nat)
  | heUniform (seed : Option Nat)
  | identity (gain : Float)
  | orthogonal (gain : Float) (seed : Option Nat)
  | varianceScaling (scale : Float) (mode distribution : String) (seed : Option Nat)

namespace Initializer

/-- The class name of an initializer. -/
def className : Initializer → String
  | zeros => "Zeros"
  | ones => "Ones"
  | constant .. => "Constant"
  | randomNormal .. => "RandomNormal"
  | randomUniform .. => "RandomUniform"
  | truncatedNormal .. => "TruncatedNormal"
  | glorotNormal .. => "GlorotNormal"
  | glorotUniform .. => "GlorotUniform"
  | heNormal .. => "HeNormal"
  | heUniform .. => "HeUniform"
  | identity .. => "Identity"
  | orthogonal .. => "Orthogonal"
  | varianceScaling .. => "VarianceScaling"

/-- The field of a seed, `null` for none. -/
def seedField (seed : Option Nat) : String × Json :=
  ("seed", .ofOption .ofNat seed)

/-- The configuration of an initializer. -/
def config : Initializer → List (String × Json)
  | zeros | ones => []
  | constant value => [("value", .ofFloat value)]
  | randomNormal mean stddev seed | truncatedNormal mean stddev seed =>
    [("mean", .ofFloat mean), ("stddev", .ofFloat stddev), seedField seed]
  | randomUniform minval maxval seed =>
    [("minval", .ofFloat minval), ("maxval", .ofFloat maxval), seedField seed]
  | glorotNormal seed | glorotUniform seed | heNormal seed | heUniform seed => [seedField seed]
  | identity gain => [("gain", .ofFloat gain)]
  | orthogonal gain seed => [("gain", .ofFloat gain), seedField seed]
  | varianceScaling scale mode distribution seed =>
    [("scale", .ofFloat scale), ("mode", .str mode), ("distribution", .str distribution),
     seedField seed]

/-- The class record of an initializer. -/
def toJson (i : Initializer) : Json :=
  classRecord i.className i.config

end Initializer

end LayerNet
