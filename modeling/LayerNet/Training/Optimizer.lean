import LayerNet.Decimal.Layout
import LayerNet.Layer.ClassRecord

/-!
# Optimizers

An optimizer is an update rule with its own parameters, and a learning rate and a decay that every
rule has.

Main definitions:

- `UpdateRule`, `Optimizer`: the rules and the optimizers.
- `Optimizer.ofAlias?`: the optimizer of a name, with default parameters.
-/

namespace LayerNet

/-- How weights are updated. -/
inductive UpdateRule where
  | sgd (momentum : Float) (nesterov : Bool)
  | adam (beta1 beta2 epsilon : Float) (amsgrad : Bool)
  | adamax (beta1 beta2 epsilon : Float)
  | nadam (beta1 beta2 epsilon : Float)
  | rmsProp (rho momentum epsilon : Float) (centered : Bool)
  | adagrad (initialAccumulator epsilon : Float)
  | adadelta (rho epsilon : Float)
  | ftrl (ratePower initialAccumulator l1 l2 l2Shrinkage beta : Float)

namespace UpdateRule

/-- The class name of a rule. -/
def className : UpdateRule → String
  | sgd .. => "SGD"
  | adam .. => "Adam"
  | adamax .. => "Adamax"
  | nadam .. => "Nadam"
  | rmsProp .. => "RMSprop"
  | adagrad .. => "Adagrad"
  | adadelta .. => "Adadelta"
  | ftrl .. => "Ftrl"

/-- The parameters of a rule. -/
def entries : UpdateRule → List (String × Json)
  | sgd momentum nesterov => [("momentum", .ofFloat momentum), ("nesterov", .bool nesterov)]
  | adam beta1 beta2 epsilon amsgrad =>
    [("beta_1", .ofFloat beta1), ("beta_2", .ofFloat beta2), ("epsilon", .ofFloat epsilon),
     ("amsgrad", .bool amsgrad)]
  | adamax beta1 beta2 epsilon | nadam beta1 beta2 epsilon =>
    [("beta_1", .ofFloat beta1), ("beta_2", .ofFloat beta2), ("epsilon", .ofFloat epsilon)]
  | rmsProp rho momentum epsilon centered =>
    [("rho", .ofFloat rho), ("momentum", .ofFloat momentum), ("epsilon", .ofFloat epsilon),
     ("centered", .bool centered)]
  | adagrad initialAccumulator epsilon =>
    [("initial_accumulator_value", .ofFloat initialAccumulator), ("epsilon", .ofFloat epsilon)]
  | adadelta rho epsilon => [("rho", .ofFloat rho), ("epsilon", .ofFloat epsilon)]
  | ftrl ratePower initialAccumulator l1 l2 l2Shrinkage beta =>
    [("learning_rate_power", .ofFloat ratePower),
     ("initial_accumulator_value", .ofFloat initialAccumulator),
     ("l1_regularization_strength", .ofFloat l1),
     ("l2_regularization_strength", .ofFloat l2),
     ("l2_shrinkage_regularization_strength", .ofFloat l2Shrinkage),
     ("beta", .ofFloat beta)]

end UpdateRule

/-- An update rule with the settings that all rules share. -/
structure Optimizer where
  rule : UpdateRule
  learningRate : Float := 0.001
  decay : Float := 0.0
  /-- the class name if none is given -/
  givenName : Option String := none

namespace Optimizer

/-- Stochastic gradient descent with its default parameters. -/
def sgd : Optimizer where
  rule := .sgd 0.0 false
  learningRate := 0.01

/-- Adam with its default parameters. -/
def adam : Optimizer where
  rule := .adam 0.9 0.999 1e-7 false

/-- The optimizer that is used when none is chosen. -/
instance : Inhabited Optimizer :=
  ⟨adam⟩

/-- The class name of an optimizer. -/
def className (o : Optimizer) : String :=
  o.rule.className

/-- The name of an optimizer. -/
def name (o : Optimizer) : String :=
  o.givenName.getD o.className

/-- The configuration of an optimizer. -/
def entries (o : Optimizer) : List (String × Json) :=
  [("name", .str o.name), ("learning_rate", .ofFloat o.learningRate), ("decay", .ofFloat o.decay)]
    ++ o.rule.entries

/-- The class record of an optimizer. -/
def toJson (o : Optimizer) : Json :=
  classRecord o.className o.entries

/-- An optimizer as it is shown in messages. -/
def text (o : Optimizer) : String :=
  o.className ++ "(lr=" ++ Decimal.messageText o.learningRate ++ ")"

/-- A name in lower case, as optimizers are looked up; only ASCII letters have cases here. -/
def lowered (name : String) : String :=
  String.ofList (name.toList.map Char.toLower)

/-- The names of the optimizers, with their default parameters. -/
def aliases : Table Optimizer :=
  [("sgd", sgd),
   ("adam", adam),
   ("adamax", { rule := .adamax 0.9 0.999 1e-7 }),
   ("nadam", { rule := .nadam 0.9 0.999 1e-7 }),
   ("rmsprop", { rule := .rmsProp 0.9 0.0 1e-7 false }),
   ("adagrad", { rule := .adagrad 0.1 1e-7 }),
   ("adadelta", { rule := .adadelta 0.95 1e-7 }),
   ("ftrl", { rule := .ftrl (-0.5) 0.1 0.0 0.0 0.0 0.0 })]

/-- The optimizer of a name, in any case. -/
def ofAlias? (name : String) : Option Optimizer :=
  Table.find? (lowered name) aliases

/-- What is said of a name that no optimizer has. -/
def unknownMessage (name : String) : String :=
  "unknown optimizer '" ++ lowered name ++ "'"

end Optimizer

end LayerNet
