import LayerNet.Json.Basic

/-!
# Class records

Initializers, regularizers, constraints and optimizers all appear in a model definition as a class
name with a configuration.
-/

namespace LayerNet

/-- The document of a class name with its configuration; the keys are sorted. -/
def classRecord (className : String) (config : List (String × Json)) : Json :=
  .object [("class_name", .str className), ("config", .object config)]

end LayerNet
