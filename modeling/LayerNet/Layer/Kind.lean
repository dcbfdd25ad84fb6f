import LayerNet.Layer.Arity
import LayerNet.Layer.Options

/-!
# Kinds of layers

A kind is a layer without its name and place.  It has a class name, the base of the names that are
generated for it, parameters and an arity.

Main definitions:

- `LayerKind`: the kinds.
- `LayerKind.entries`: the parameters in the order in which they are written.
- `LayerKind.params`: the parameters as a sorted table.
-/

namespace LayerNet

/-- A layer without its name and place. -/
inductive LayerKind where
  | input (shape : Shape) (sparse ragged : Bool)
  | dense (units : Nat) (function : String) (weights : WeightOptions)
  | activation (function : String)
  | dropout (rate : Float) (seed : Option Nat)
  | flatten
  | reshape (target : List Nat)
  | embedding (options : EmbeddingOptions)
  | convolution1D (options : Convolution1DOptions)
  | convolution2D (options : Convolution2DOptions)
  | pooling1D (op : PoolOperation) (poolSize : Nat) (strides : Option Nat) (padding : String)
  | pooling2D (op : PoolOperation) (poolSize : Nat × Nat) (strides : Option (Nat × Nat))
      (padding : String)
  | globalPooling1D (op : PoolOperation) (keepdims : Bool)
  | concatenate (axis : Int)
  | merge (op : MergeOperation)
  | recurrent (options : RecurrentOptions)
  | batchNormalization (options : BatchNormalizationOptions)
  | layerNormalization (options : LayerNormalizationOptions)
  | fourierFeatures (outputDim : Nat) (distribution : String) (scale : Option Float)
  | custom (options : CustomOptions)

namespace LayerKind

/-! ## Names -/

/-- The class name of a kind. -/
def className : LayerKind → String
  | input .. => "InputLayer"
  | dense .. => "Dense"
  | activation .. => "Activation"
  | dropout .. => "Dropout"
  | flatten => "Flatten"
  | reshape .. => "Reshape"
  | embedding .. => "Embedding"
  | convolution1D .. => "Conv1D"
  | convolution2D .. => "Conv2D"
  | pooling1D op .. => op.pick "MaxPooling1D" "AveragePooling1D"
  | pooling2D op .. => op.pick "MaxPooling2D" "AveragePooling2D"
  | globalPooling1D op _ => op.pick "GlobalMaxPooling1D" "GlobalAveragePooling1D"
  | concatenate .. => "Concatenate"
  | merge op => op.className
  | recurrent o => o.cell.className
  | batchNormalization .. => "BatchNormalization"
  | layerNormalization .. => "LayerNormalization"
  | fourierFeatures .. => "RandomFourierFeatures"
  | custom o => o.className

/-- The base of the names that are generated for a kind. -/
def baseName : LayerKind → String
  | input .. => "input"
  | dense .. => "dense"
  | activation .. => "activation"
  | dropout .. => "dropout"
  | flatten => "flatten"
  | reshape .. => "reshape"
  | embedding .. => "embedding"
  | convolution1D .. => "conv1d"
  | convolution2D .. => "conv2d"
  | pooling1D op .. => op.pick "max_pooling1d" "average_pooling1d"
  | pooling2D op .. => op.pick "max_pooling2d" "average_pooling2d"
  | globalPooling1D op _ => op.pick "global_max_pooling1d" "global_average_pooling1d"
  | concatenate .. => "concatenate"
  | merge op => op.baseName
  | recurrent o => o.cell.baseName
  | batchNormalization .. => "batch_normalization"
  | layerNormalization .. => "layer_normalization"
  | fourierFeatures .. => "random_fourier_features"
  | custom o => o.baseName

/-- How many layers may feed a layer of a kind. -/
def arity : LayerKind → Arity
  | input .. => .none
  | concatenate .. | merge .. => .atLeast 2
  | custom .. => .any
  | _ => .one

/-- The source text of a kind that has one. -/
def definition? : LayerKind → Option String
  | custom o => o.definition
  | _ => none

/-- The shape of an input layer. -/
def shape? : LayerKind → Option Shape
  | input shape _ _ => some shape
  | _ => none

/-- Whether a kind is that of input layers. -/
def isInput (kind : LayerKind) : Bool :=
  kind.shape?.isSome

/-! ## Parameters -/

/-- The field for the layout of images, which is always the same. -/
def channelsLast : String × Json :=
  ("data_format", .str "channels_last")

/-- A list of numbers. -/
def natList (ns : List Nat) : Json :=
  .arr (ns.map .ofNat)

/-- A pair of numbers. -/
def natPair (p : Nat × Nat) : Json :=
  natList [p.1, p.2]

/-- The parameters of an embedding. -/
def embeddingEntries (o : EmbeddingOptions) : List (String × Json) :=
  [("input_dim", .ofNat o.inputDim),
   ("output_dim", .ofNat o.outputDim),
   initializerField "embeddings_initializer" o.initializer,
   regularizerField "embeddings_regularizer" o.regularizer,
   regularizerField "activity_regularizer" o.activityRegularizer,
   constraintField "embeddings_constraint" o.constraint,
   ("mask_zero", .bool o.maskZero),
   ("input_length", .ofOption .ofNat o.inputLength)]

/-- The parameters of a convolution along one axis. -/
def convolution1DEntries (o : Convolution1DOptions) : List (String × Json) :=
  [("filters", .ofNat o.filters),
   ("kernel_size", natList [o.kernelSize]),
   ("strides", natList [o.strides]),
   ("padding", .str o.padding),
   channelsLast,
   ("dilation_rate", natList [o.dilationRate]),
   ("groups", .ofNat o.groups),
   ("activation", .str o.activation)]
    ++ o.weights.fields

/-- The parameters of a convolution along two axes. -/
def convolution2DEntries (o : Convolution2DOptions) : List (String × Json) :=
  [("filters", .ofNat o.filters),
   ("kernel_size", natPair o.kernelSize),
   ("strides", natPair o.strides),
   ("padding", .str o.padding),
   channelsLast,
   ("dilation_rate", natPair o.dilationRate),
   ("groups", .ofNat o.groups),
   ("activation", .str o.activation)]
    ++ o.weights.fields

/-- The parameters that only some cells have. -/
def cellEntries (o : RecurrentOptions) : List (String × Json) :=
  match o.cell with
  | .lstm =>
    [("recurrent_activation", .str o.recurrentActivation),
     ("unit_forget_bias", .bool o.unitForgetBias),
     ("implementation", .int 2)]
  | .gru =>
    [("recurrent_activation", .str o.recurrentActivation),
     ("reset_after", .bool o.resetAfter),
     ("implementation", .int 2)]
  | .simple => []

/-- The parameters of a recurrent layer. -/
def recurrentEntries (o : RecurrentOptions) : List (String × Json) :=
  [("units", .ofNat o.units),
   ("activation", .str o.activation),
   ("use_bias", .bool o.useBias),
   initializerField "kernel_initializer" o.kernelInitializer,
   initializerField "recurrent_initializer" o.recurrentInitializer,
   initializerField "bias_initializer" o.biasInitializer,
   regularizerField "kernel_regularizer" o.kernelRegularizer,
   regularizerField "recurrent_regularizer" o.recurrentRegularizer,
   regularizerField "bias_regularizer" o.biasRegularizer,
   regularizerField "activity_regularizer" o.activityRegularizer,
   constraintField "kernel_constraint" o.kernelConstraint,
   constraintField "recurrent_constraint" o.recurrentConstraint,
   constraintField "bias_constraint" o.biasConstraint,
   ("dropout", .ofFloat o.dropout),
   ("recurrent_dropout", .ofFloat o.recurrentDropout),
   ("return_sequences", .bool o.returnSequences),
   ("return_state", .bool o.returnState),
   ("go_backwards", .bool o.goBackwards),
   ("stateful", .bool o.stateful),
   ("unroll", .bool o.unroll),
   ("time_major", .bool false)]
    ++ cellEntries o

/-- The parameters of batch normalization. -/
def batchNormalizationEntries (o : BatchNormalizationOptions) : List (String × Json) :=
  [("axis", .int o.axis),
   ("momentum", .ofFloat o.momentum),
   ("epsilon", .ofFloat o.epsilon),
   ("center", .bool o.center),
   ("scale", .bool o.scale),
   initializerField "beta_initializer" o.betaInitializer,
   initializerField "gamma_initializer" o.gammaInitializer,
   initializerField "moving_mean_initializer" o.movingMeanInitializer,
   initializerField "moving_variance_initializer" o.movingVarianceInitializer,
   regularizerField "beta_regularizer" o.betaRegularizer,
   regularizerField "gamma_regularizer" o.gammaRegularizer,
   constraintField "beta_constraint" o.betaConstraint,
   constraintField "gamma_constraint" o.gammaConstraint]

/-- The parameters of layer normalization. -/
def layerNormalizationEntries (o : LayerNormalizationOptions) : List (String × Json) :=
  [("axis", .arr (o.axis.map .int)),
   ("epsilon", .ofFloat o.epsilon),
   ("center", .bool o.center),
   ("scale", .bool o.scale),
   initializerField "beta_initializer" o.betaInitializer,
   initializerField "gamma_initializer" o.gammaInitializer,
   regularizerField "beta_regularizer" o.betaRegularizer,
   regularizerField "gamma_regularizer" o.gammaRegularizer,
   constraintField "beta_constraint" o.betaConstraint,
   constraintField "gamma_constraint" o.gammaConstraint]

/-- The parameters of a kind in the order in which they are written. -/
def entries : LayerKind → List (String × Json)
  | input shape sparse ragged =>
    [("batch_input_shape", shape.toJson), ("sparse", .bool sparse), ("ragged", .bool ragged)]
  | dense units function weights =>
    [("units", .ofNat units), ("activation", .str function)] ++ weights.fields
  | activation function => [("activation", .str function)]
  | dropout rate seed =>
    [("rate", .ofFloat rate), ("noise_shape", .null), ("seed", .ofOption .ofNat seed)]
  | flatten => [channelsLast]
  | reshape target => [("target_shape", natList target)]
  | embedding o => embeddingEntries o
  | convolution1D o => convolution1DEntries o
  | convolution2D o => convolution2DEntries o
  | pooling1D _ poolSize strides padding =>
    [("pool_size", natList [poolSize]), ("strides", natList [strides.getD poolSize]),
     ("padding", .str padding), channelsLast]
  | pooling2D _ poolSize strides padding =>
    [("pool_size", natPair poolSize), ("strides", natPair (strides.getD poolSize)),
     ("padding", .str padding), channelsLast]
  | globalPooling1D _ keepdims => [channelsLast, ("keepdims", .bool keepdims)]
  | concatenate axis => [("axis", .int axis)]
  | merge _ => []
  | recurrent o => recurrentEntries o
  | batchNormalization o => batchNormalizationEntries o
  | layerNormalization o => layerNormalizationEntries o
  | fourierFeatures outputDim distribution scale =>
    [("output_dim", .ofNat outputDim), ("kernel_initializer", .str distribution),
     ("scale", .ofOption .ofFloat scale)]
  | custom o => o.params

/-- The parameters of a kind, sorted by key. -/
def params (kind : LayerKind) : Table Json :=
  Table.ofPairs kind.entries

end LayerKind

end LayerNet
