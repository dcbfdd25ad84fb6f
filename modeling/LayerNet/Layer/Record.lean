import LayerNet.Layer.Validation
import LayerNet.Tensor.ElementType

/-!
# Layers and their records

A layer specification is a kind with the identity that the user gives it; a layer stands in a
network and has a name and inputs.  The record of a layer is what a model definition says of it.

Main definitions:

- `LayerSpec`, `Layer`: a layer before and after it is put into a network.
- `LayerRecord`: a layer in a model definition.
- `Layer.record`: the record of a layer whose inputs have given names.
-/

namespace LayerNet

/-- A kind with the identity that every layer may be given. -/
structure LayerSpec where
  kind : LayerKind
  name : Option String := none
  elementType : Option ElementType := none
  trainable : Bool := true

/-- The number of a layer in its network. -/
abbrev LayerId := Nat

/-- A layer of a network, fed by other layers in a given order. -/
structure Layer where
  name : String
  kind : LayerKind
  elementType : ElementType
  trainable : Bool
  inputs : List LayerId

/-- A layer in a model definition, its inputs given by their names. -/
structure LayerRecord where
  className : String
  name : String
  config : Table Json
  inbound : List (List String)

namespace Layer

/-- What the configuration of a layer says of its identity; inputs are never trained. -/
def identity (layer : Layer) : List (String × Json) :=
  [("name", .str layer.name), ("dtype", .str layer.elementType.name)]
    ++ (if layer.kind.isInput then [] else [("trainable", .bool layer.trainable)])

/-- The configuration of a layer; its identity goes before parameters of the same key. -/
def config (layer : Layer) : Table Json :=
  layer.identity.foldl (fun table pair => Table.insert pair.1 pair.2 table) layer.kind.params

/-- The record of a layer fed by layers of the given names. -/
def record (layer : Layer) (feeding : List String) : LayerRecord where
  className := layer.kind.className
  name := layer.name
  config := layer.config
  inbound := [feeding]

end Layer

namespace LayerRecord

/-- A reference to the only output of a layer. -/
def edge (name : String) : Json :=
  .arr [.str name, .int 0, .int 0, .obj []]

/-- The document of a record. -/
def toJson (r : LayerRecord) : Json :=
  .obj [("class_name", .str r.className), ("name", .str r.name), ("config", .obj r.config),
    ("inbound_nodes", .arr (r.inbound.map fun names => .arr (names.map edge)))]

end LayerRecord

end LayerNet
