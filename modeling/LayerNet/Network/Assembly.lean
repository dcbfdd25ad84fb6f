import LayerNet.Network.Walk

/-!
# Assembly

The layers behind the requested outputs, in an order in which every layer follows its inputs, make
up a model definition: a document that says all there is to say about them.

Main definitions:

- `ModelDefinition`: the document, and `ModelDefinition.toJson`.
- `Assembly`: a model definition with what else is known of it.
- `Network.assemble`: the assembly behind given outputs.
-/

namespace LayerNet

/-- The layers of a model with the names of its inputs and outputs. -/
structure ModelDefinition where
  layers : List LayerRecord
  inputLayers : List String
  outputLayers : List String

namespace ModelDefinition

/-- A reference to the only output of a layer at the rim of the model. -/
def layerReference (name : String) : Json :=
  .arr [.str name, .int 0, .int 0]

/-- The model definition as a document. -/
def toJson (d : ModelDefinition) : Json :=
  .obj [("class_name", .str "Functional"),
    ("config", .obj [("name", .str "model"),
      ("layers", .arr (d.layers.map LayerRecord.toJson)),
      ("input_layers", .arr (d.inputLayers.map layerReference)),
      ("output_layers", .arr (d.outputLayers.map layerReference))]),
    ("keras_version", .str "2.6.0"),
    ("backend", .str "tensorflow")]

end ModelDefinition

/-- What an input of a model takes. -/
structure InputSignature where
  name : String
  shape : Shape
  elementType : ElementType

/-- The signature of a layer that is an input. -/
def Layer.signature? (layer : Layer) : Option InputSignature :=
  layer.kind.shape?.map fun shape => ⟨layer.name, shape, layer.elementType⟩

/-- A model definition, with the ids of its layers, the signatures of its inputs and the source
texts of its own layer classes. -/
structure Assembly where
  order : List LayerId
  definition : ModelDefinition
  inputs : List InputSignature
  definitions : List String

namespace Network

/-- The ids of the layers behind the outputs, every layer after its inputs. -/
def assemblyOrder (net : Network) (outputs : List LayerId) : Except NetworkError (List LayerId) :=
  if outputs.isEmpty then .error .noOutputs else (outputs.foldlM net.visit {}).map Walk.order

/-- Assembles the layers behind the outputs. -/
def assemble (net : Network) (outputs : List LayerId) : Except NetworkError Assembly := do
  let order ← net.assemblyOrder outputs
  let layers ← order.mapM net.layer
  let records ← order.mapM net.record
  let outputNames := (← outputs.mapM net.layer).map Layer.name
  let inputs := layers.filterMap Layer.signature?
  return {
    order
    definition := ⟨records, inputs.map InputSignature.name, outputNames.eraseDups⟩
    inputs
    definitions := layers.filterMap fun layer => layer.kind.definition? }

end Network

end LayerNet
