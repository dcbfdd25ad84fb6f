import LayerNet.Decimal.Layout
import LayerNet.Layer.Kind

/-!
# Validation of layers

What the parameters of a kind must satisfy.  The first condition that fails is reported.

Main definitions:

- `ParameterFault`: what can be wrong, with its message.
- `LayerKind.fault?`: what is wrong with a kind.
-/

namespace LayerNet

/-- What can be wrong with the parameters of a layer. -/
inductive ParameterFault where
  | inputShape (shape : Shape)
  | unitsNotPositive
  | activationEmpty
  | dropoutRate (rate : Float)
  | recurrentRate (what : String) (rate : Float)
  | targetShape
  | embeddingSizes
  | notPositive (what : String) (values : List Nat)
  | unknownPadding (padding : String)
  | momentum (value : Float)
  | epsilonNotPositive
  | axisEmpty
  | className (name : String)
  | outputDimNotPositive
  | unknownDistribution (name : String)

/-- What is said of a fault. -/
def ParameterFault.message : ParameterFault → String
  | .inputShape shape =>
    "input shape " ++ shape.text ++ " must have a batch dimension followed by positive sizes"
  | .unitsNotPositive => "units must be positive"
  | .activationEmpty => "activation name is empty"
  | .dropoutRate rate => "dropout rate " ++ Decimal.messageText rate ++ " outside [0, 1)"
  | .recurrentRate what rate => what ++ " " ++ Decimal.messageText rate ++ " outside [0, 1)"
  | .targetShape => "target shape needs at least one positive dimension"
  | .embeddingSizes => "input_dim and output_dim must be positive"
  | .notPositive what values =>
    what ++ " must be positive, got [" ++ ", ".intercalate (values.map Decimal.natText) ++ "]"
  | .unknownPadding padding => "unknown padding '" ++ padding ++ "'"
  | .momentum value => "momentum " ++ Decimal.messageText value ++ " outside [0, 1]"
  | .epsilonNotPositive => "epsilon must be positive"
  | .axisEmpty => "axis list is empty"
  | .className name => "'" ++ name ++ "' is not a valid class name"
  | .outputDimNotPositive => "output_dim must be positive"
  | .unknownDistribution name => "unsupported kernel distribution '" ++ name ++ "'"

namespace LayerKind

/-- A condition with the fault of its failure. -/
abbrev Check := Bool × ParameterFault

/-- The fault of the first condition that fails. -/
def firstFault : List Check → Option ParameterFault
  | [] => none
  | (holds, fault) :: rest => if holds then firstFault rest else some fault

/-- There is no fault exactly if every check passes. -/
theorem firstFault_eq_none_iff {checks : List Check} :
    firstFault checks = none ↔ ∀ check ∈ checks, check.1 = true := by
  induction checks with
  | nil => simp [firstFault]
  | cons check rest ih =>
    obtain ⟨holds, fault⟩ := check
    cases holds <;> simp [firstFault, ih]

/-- All values are positive. -/
def positive (what : String) (values : List Nat) : Check :=
  (values.all (0 < ·), .notPositive what values)

/-- The padding is a known one. -/
def knownPadding (padding : String) : Check :=
  (["valid", "same", "causal"].contains padding, .unknownPadding padding)

/-- Whether a rate is at least zero and below one. -/
def isRate (rate : Float) : Bool :=
  0.0 ≤ rate && rate < 1.0

/-- Whether a text is an ASCII letter followed by ASCII letters, digits and underscores. -/
def isClassName (name : String) : Bool :=
  match name.toList with
  | [] => false
  | c :: cs => c.isAlpha && cs.all fun d => d.isAlphanum || d = '_'

/-- The conditions on the parameters of a kind, in the order in which they are checked. -/
def checks : LayerKind → List Check
  | input shape _ _ => [(shape.isValid, .inputShape shape)]
  | dense units _ _ => [(0 < units, .unitsNotPositive)]
  | activation function => [(!function.isEmpty, .activationEmpty)]
  | dropout rate _ => [(isRate rate, .dropoutRate rate)]
  | reshape target => [(!target.isEmpty && target.all (0 < ·), .targetShape)]
  | embedding o => [(0 < o.inputDim && 0 < o.outputDim, .embeddingSizes)]
  | convolution1D o =>
    [positive "filters, kernel_size, strides, dilation_rate and groups"
       [o.filters, o.kernelSize, o.strides, o.dilationRate, o.groups],
     knownPadding o.padding]
  | convolution2D o =>
    [positive "filters and groups" [o.filters, o.groups],
     positive "kernel_size" [o.kernelSize.1, o.kernelSize.2],
     positive "strides" [o.strides.1, o.strides.2],
     positive "dilation_rate" [o.dilationRate.1, o.dilationRate.2],
     knownPadding o.padding]
  | pooling1D _ poolSize strides padding =>
    [positive "pool_size" [poolSize], positive "strides" strides.toList, knownPadding padding]
  | pooling2D _ poolSize strides padding =>
    [positive "pool_size" [poolSize.1, poolSize.2],
     positive "strides" ((strides.map fun s => [s.1, s.2]).getD []),
     knownPadding padding]
  | recurrent o =>
    [(0 < o.units, .unitsNotPositive),
     (isRate o.dropout, .recurrentRate "dropout" o.dropout),
     (isRate o.recurrentDropout, .recurrentRate "recurrent_dropout" o.recurrentDropout)]
  | batchNormalization o =>
    [(0.0 ≤ o.momentum && o.momentum ≤ 1.0, .momentum o.momentum),
     (!(o.epsilon ≤ 0.0 : Bool), .epsilonNotPositive)]
  | layerNormalization o => [(!o.axis.isEmpty, .axisEmpty)]
  | fourierFeatures outputDim distribution _ =>
    [(0 < outputDim, .outputDimNotPositive),
     (["gaussian", "laplacian"].contains distribution, .unknownDistribution distribution)]
  | custom o => [(isClassName o.className, .className o.className)]
  | flatten | globalPooling1D .. | concatenate .. | merge .. => []

/-- What is wrong with the parameters of a kind. -/
def fault? (kind : LayerKind) : Option ParameterFault :=
  firstFault kind.checks

end LayerKind

end LayerNet
