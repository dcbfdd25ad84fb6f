import LayerNet.Layer.Constraint
import LayerNet.Layer.Initializer
import LayerNet.Layer.Regularizer
import LayerNet.Tensor.Shape

/-!
# Options of layers

The parameters of each kind of layer, with the values they have when they are not given.
-/

namespace LayerNet

/-- A field that holds an initializer. -/
def initializerField (key : String) (i : Initializer) : String × Json :=
  (key, i.toJson)

/-- A field that holds a regularizer, `null` for none. -/
def regularizerField (key : String) (r : Option Regularizer) : String × Json :=
  (key, .ofOption Regularizer.toJson r)

/-- A field that holds a constraint, `null` for none. -/
def constraintField (key : String) (c : Option Constraint) : String × Json :=
  (key, .ofOption Constraint.toJson c)

/-- The weights of dense and convolution layers: a kernel and a bias. -/
structure WeightOptions where
  useBias : Bool := true
  kernelInitializer : Initializer := .glorotUniform none
  biasInitializer : Initializer := .zeros
  kernelRegularizer : Option Regularizer := none
  biasRegularizer : Option Regularizer := none
  activityRegularizer : Option Regularizer := none
  kernelConstraint : Option Constraint := none
  biasConstraint : Option Constraint := none

/-- The fields of a kernel and a bias. -/
def WeightOptions.fields (w : WeightOptions) : List (String × Json) :=
  [("use_bias", .bool w.useBias),
   initializerField "kernel_initializer" w.kernelInitializer,
   initializerField "bias_initializer" w.biasInitializer,
   regularizerField "kernel_regularizer" w.kernelRegularizer,
   regularizerField "bias_regularizer" w.biasRegularizer,
   regularizerField "activity_regularizer" w.activityRegularizer,
   constraintField "kernel_constraint" w.kernelConstraint,
   constraintField "bias_constraint" w.biasConstraint]

/-- A table from numbers to vectors. -/
structure EmbeddingOptions where
  inputDim : Nat
  outputDim : Nat
  initializer : Initializer := .randomUniform (-0.05) 0.05 none
  regularizer : Option Regularizer := none
  activityRegularizer : Option Regularizer := none
  constraint : Option Constraint := none
  maskZero : Bool := false
  inputLength : Option Nat := none

/-- A convolution along one axis. -/
structure Convolution1DOptions where
  filters : Nat
  kernelSize : Nat
  strides : Nat := 1
  padding : String := "valid"
  dilationRate : Nat := 1
  groups : Nat := 1
  activation : String := "linear"
  weights : WeightOptions := {}

/-- A convolution along two axes. -/
structure Convolution2DOptions where
  filters : Nat
  kernelSize : Nat × Nat
  strides : Nat × Nat := (1, 1)
  padding : String := "valid"
  dilationRate : Nat × Nat := (1, 1)
  groups : Nat := 1
  activation : String := "linear"
  weights : WeightOptions := {}

/-- What a pooling layer keeps of each window. -/
inductive PoolOperation where
  | max
  | average
deriving DecidableEq, Repr

/-- The text that goes with an operation. -/
def PoolOperation.pick (op : PoolOperation) (max average : String) : String :=
  match op with
  | .max => max
  | .average => average

/-- How a merging layer combines its inputs. -/
inductive MergeOperation where
  | add
  | subtract
  | multiply
  | average
  | maximum
  | minimum
deriving DecidableEq, Repr

/-- The class name of a merging layer. -/
def MergeOperation.className : MergeOperation → String
  | .add => "Add"
  | .subtract => "Subtract"
  | .multiply => "Multiply"
  | .average => "Average"
  | .maximum => "Maximum"
  | .minimum => "Minimum"

/-- The base of a merging layer's generated name. -/
def MergeOperation.baseName : MergeOperation → String
  | .add => "add"
  | .subtract => "subtract"
  | .multiply => "multiply"
  | .average => "average"
  | .maximum => "maximum"
  | .minimum => "minimum"

/-- The cell that a recurrent layer repeats. -/
inductive RecurrentCell where
  | lstm
  | gru
  | simple
deriving DecidableEq, Repr

/-- The class name of a recurrent layer. -/
def RecurrentCell.className : RecurrentCell → String
  | .lstm => "LSTM"
  | .gru => "GRU"
  | .simple => "SimpleRNN"

/-- The base of a recurrent layer's generated name. -/
def RecurrentCell.baseName : RecurrentCell → String
  | .lstm => "lstm"
  | .gru => "gru"
  | .simple => "simple_rnn"

/-- A cell repeated along the time axis. -/
structure RecurrentOptions where
  cell : RecurrentCell
  units : Nat
  activation : String := "tanh"
  recurrentActivation : String := "sigmoid"
  useBias : Bool := true
  kernelInitializer : Initializer := .glorotUniform none
  recurrentInitializer : Initializer := .orthogonal 1.0 none
  biasInitializer : Initializer := .zeros
  kernelRegularizer : Option Regularizer := none
  recurrentRegularizer : Option Regularizer := none
  biasRegularizer : Option Regularizer := none
  activityRegularizer : Option Regularizer := none
  kernelConstraint : Option Constraint := none
  recurrentConstraint : Option Constraint := none
  biasConstraint : Option Constraint := none
  dropout : Float := 0.0
  recurrentDropout : Float := 0.0
  returnSequences : Bool := false
  returnState : Bool := false
  goBackwards : Bool := false
  stateful : Bool := false
  unroll : Bool := false
  /-- only an LSTM cell has it -/
  unitForgetBias : Bool := true
  /-- only a GRU cell has it -/
  resetAfter : Bool := true

/-- Normalization over a batch. -/
structure BatchNormalizationOptions where
  axis : Int := -1
  momentum : Float := 0.99
  epsilon : Float := 0.001
  center : Bool := true
  scale : Bool := true
  betaInitializer : Initializer := .zeros
  gammaInitializer : Initializer := .ones
  movingMeanInitializer : Initializer := .zeros
  movingVarianceInitializer : Initializer := .ones
  betaRegularizer : Option Regularizer := none
  gammaRegularizer : Option Regularizer := none
  betaConstraint : Option Constraint := none
  gammaConstraint : Option Constraint := none

/-- Normalization over axes of a layer. -/
structure LayerNormalizationOptions where
  axis : List Int := [-1]
  epsilon : Float := 0.001
  center : Bool := true
  scale : Bool := true
  betaInitializer : Initializer := .zeros
  gammaInitializer : Initializer := .ones
  betaRegularizer : Option Regularizer := none
  gammaRegularizer : Option Regularizer := none
  betaConstraint : Option Constraint := none
  gammaConstraint : Option Constraint := none

/-- A layer class given by its own source text. -/
structure CustomOptions where
  className : String
  baseName : String
  params : Table Json := []
  definition : Option String := none

namespace CustomOptions

/-- The letters of a class name in lower case, an underscore before each capital that begins a word;
`before` is the letter before. -/
def wordChars (before : Option Char) : List Char → List Char
  | [] => []
  | c :: cs =>
    if c.isUpper then
      let afterLower := before.any Char.isLower
      let afterUpper := before.any Char.isUpper
      let beforeLower := cs.head?.any Char.isLower
      let begins := afterLower || (afterUpper && beforeLower)
      (if begins then ['_', c.toLower] else [c.toLower]) ++ wordChars (some c) cs
    else c :: wordChars (some c) cs

/-- The base of generated names for a class: its words in lower case with underscores between. -/
def baseOf (className : String) : String :=
  String.ofList (wordChars none className.toList)

/-- A class without parameters and source text. -/
def ofClass (className : String) : CustomOptions where
  className := className
  baseName := baseOf className

end CustomOptions

end LayerNet
