/-!
# Element types

The element types of tensors, and their names in a model definition.

Main result: `ofName?_name`, a type is found again by its name.
-/

namespace LayerNet

/-- The type of the elements of a tensor. -/
inductive ElementType where
  | float16
  | float32
  | float64
  | double
  | half
  | bfloat16
  | int8
  | int16
  | int32
  | int64
  | uint8
  | uint16
  | uint32
  | uint64
  | qint8
  | qint16
  | qint32
  | quint8
  | quint16
  | complex
  | complex64
  | complex128
  | string
  | bool
deriving DecidableEq, Repr

namespace ElementType

/-- The type that a layer has when none is given. -/
instance : Inhabited ElementType :=
  ⟨float32⟩

/-- All element types. -/
def all : List ElementType :=
  [float16, float32, float64, double, half, bfloat16, int8, int16, int32, int64, uint8, uint16,
   uint32, uint64, qint8, qint16, qint32, quint8, quint16, complex, complex64, complex128, string,
   bool]

/-- The name of an element type in a model definition. -/
def name : ElementType → String
  | float16 => "float16"
  | float32 => "float32"
  | float64 => "float64"
  | double => "double"
  | half => "half"
  | bfloat16 => "bfloat16"
  | int8 => "int8"
  | int16 => "int16"
  | int32 => "int32"
  | int64 => "int64"
  | uint8 => "uint8"
  | uint16 => "uint16"
  | uint32 => "uint32"
  | uint64 => "uint64"
  | qint8 => "qint8"
  | qint16 => "qint16"
  | qint32 => "qint32"
  | quint8 => "quint8"
  | quint16 => "quint16"
  | complex => "complex"
  | complex64 => "complex64"
  | complex128 => "complex128"
  | string => "string"
  | bool => "bool"

/-- The element type of a name. -/
def ofName? (s : String) : Option ElementType :=
  all.find? fun t => t.name == s

/-- What is said of a name that no element type has. -/
def unknownMessage (s : String) : String :=
  "unknown dtype '" ++ s ++ "'"

/-- Every element type is known by its name. -/
theorem ofName?_name (t : ElementType) : ofName? t.name = some t := by
  cases t <;> decide

end ElementType

end LayerNet
