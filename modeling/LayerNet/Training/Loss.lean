/-!
# Losses

What a model is trained to make small.
-/

namespace LayerNet

/-- A loss. -/
inductive Loss where
  | binaryCrossentropy
  | sparseCategoricalCrossentropy
  | meanSquaredError
deriving DecidableEq, Repr

namespace Loss

/-- The loss that is used when none is chosen. -/
instance : Inhabited Loss :=
  ⟨meanSquaredError⟩

/-- The name of a loss. -/
def name : Loss → String
  | binaryCrossentropy => "binary_crossentropy"
  | sparseCategoricalCrossentropy => "sparse_categorical_crossentropy"
  | meanSquaredError => "mse"

/-- The loss of a name; the mean squared error has a long name, too. -/
def ofName? (s : String) : Option Loss :=
  if s = "binary_crossentropy" then some binaryCrossentropy
  else if s = "sparse_categorical_crossentropy" then some sparseCategoricalCrossentropy
  else if s = "mse" ∨ s = "mean_squared_error" then some meanSquaredError
  else none

/-- What is said of a name that no loss has. -/
def unknownMessage (s : String) : String :=
  "unknown loss '" ++ s ++ "'"

/-- Every loss is known by its name. -/
theorem ofName?_name (l : Loss) : ofName? l.name = some l := by
  cases l <;> decide

end Loss

end LayerNet
