import LayerNet.Layer.Record
import LayerNet.NameRegistry

/-!
# Networks of layers

A network holds its layers in the order in which they were added; the place of a layer is its id.
Inputs of a layer are ids, so that a layer may feed any number of others, and they may be replaced
later by any ids of the network.  No two layers have the same name: a name that the user gives is
refused if it is in use, a generated one avoids those in use.  The ids of the names are kept in a
table of their own.

Main definitions:

- `Network`: the layers, and the ids of their names.
- `NetworkError`: why a layer is refused, or a network cannot be put in order.
- `Builder`: a network with the registry that its generated names come from.
- `Builder.add`, `Builder.input`, `Builder.chain`, `Builder.rewire`: how networks grow and change.
-/

namespace LayerNet

/-! ## Errors -/

/-- Why an operation on a network fails. -/
inductive NetworkError where
  | invalidParameter (layer : String) (fault : ParameterFault)
  | arity (layer : String) (expected : Arity) (found : Nat)
  | unknownNode (id : LayerId)
  | duplicateName (name : String)
  | cycle (layer : String)
  | noOutputs

/-- What is said of an error. -/
def NetworkError.message : NetworkError → String
  | .invalidParameter layer fault =>
    "invalid parameter for layer '" ++ layer ++ "': " ++ fault.message
  | .arity layer expected found =>
    "layer '" ++ layer ++ "' expects " ++ expected.text ++ " input(s), got "
      ++ Decimal.natText found
  | .unknownNode id => "unknown node id NodeId(" ++ Decimal.natText id ++ ")"
  | .duplicateName name => "layer name '" ++ name ++ "' is already used in this graph"
  | .cycle layer => "cycle detected: layer '" ++ layer ++ "' depends on itself"
  | .noOutputs => "no output layers given"

/-! ## Networks -/

/-- The layers of a network, the place of a layer being its id, and the table of their names. -/
structure Network where
  layers : Array Layer := #[]
  ids : Table LayerId := []

namespace Network

/-- How many layers there are. -/
def size (net : Network) : Nat :=
  net.layers.size

/-- The layer of an id. -/
def layer? (net : Network) (id : LayerId) : Option Layer :=
  net.layers[id]?

/-- The layer of an id, or the error that there is none. -/
def layer (net : Network) (id : LayerId) : Except NetworkError Layer :=
  match net.layer? id with
  | some layer => .ok layer
  | none => .error (.unknownNode id)

/-- The inputs of the layer of an id; none if there is no such layer. -/
def inputs (net : Network) (id : LayerId) : List LayerId :=
  (net.layer? id).elim [] Layer.inputs

/-- The names of the layers, in order. -/
def names (net : Network) : List String :=
  net.layers.toList.map Layer.name

/-- The id of the layer with a given name. -/
def find? (net : Network) (name : String) : Option LayerId :=
  Table.find? name net.ids

/-- Checks the inputs of a layer: their number first, then that each is in the network. -/
def checkInputs (net : Network) (name : String) (kind : LayerKind) (inputs : List LayerId) :
    Except NetworkError Unit :=
  if !kind.arity.accepts inputs.length then
    .error (.arity name kind.arity inputs.length)
  else
    match inputs.find? fun id => net.size ≤ id with
    | some id => .error (.unknownNode id)
    | none => .ok ()

/-- Puts a layer at the end, under its name. -/
def push (net : Network) (layer : Layer) : Network :=
  ⟨net.layers.push layer, Table.insert layer.name net.size net.ids⟩

/-- Puts a layer with a chosen name at the end, if its parameters and inputs are right. -/
def place (net : Network) (name : String) (spec : LayerSpec) (inputs : List LayerId) :
    Except NetworkError Network :=
  match spec.kind.fault? with
  | some fault => .error (.invalidParameter name fault)
  | none =>
    match net.checkInputs name spec.kind inputs with
    | .error e => .error e
    | .ok () =>
      .ok <| net.push
        { name, kind := spec.kind, elementType := spec.elementType.getD default,
          trainable := spec.trainable, inputs }

/-- Gives a layer other inputs. -/
def setInputs (net : Network) (id : LayerId) (inputs : List LayerId) : Network :=
  { net with layers := net.layers.modify id fun layer => { layer with inputs } }

/-- Replaces the inputs of a layer, if the new ones are right. -/
def rewire (net : Network) (id : LayerId) (inputs : List LayerId) : Except NetworkError Network :=
  match net.layer id with
  | .error e => .error e
  | .ok layer =>
    match net.checkInputs layer.name layer.kind inputs with
    | .error e => .error e
    | .ok () => .ok (net.setInputs id inputs)

/-- The record of a layer, its inputs given by their names. -/
def record (net : Network) (id : LayerId) : Except NetworkError LayerRecord := do
  let layer ← net.layer id
  let feeding ← layer.inputs.mapM net.layer
  return layer.record (feeding.map Layer.name)

/-! ### Looking up layers -/

theorem lt_size_of_layer? {net : Network} {id : LayerId} {layer : Layer}
    (h : net.layer? id = some layer) : id < net.size :=
  (Array.getElem?_eq_some_iff.1 h).1

theorem layer_eq_ok_iff {net : Network} {id : LayerId} {layer : Layer} :
    net.layer id = .ok layer ↔ net.layer? id = some layer := by
  unfold Network.layer
  split <;> rename_i h <;> simp [h]

/-- The number of a layer that is not there is the only error of looking one up. -/
theorem layer_eq_error_iff {net : Network} {id : LayerId} {e : NetworkError} :
    net.layer id = .error e ↔ net.size ≤ id ∧ e = .unknownNode id := by
  have hnone : net.layer? id = none ↔ net.size ≤ id := Array.getElem?_eq_none_iff
  unfold Network.layer
  split <;> rename_i h
  · simp [← hnone, h]
  · simp [← hnone, h, eq_comm]

/-- The inputs of a layer that is not there are none; those of one that is there are its own. -/
theorem inputs_of_layer? {net : Network} {id : LayerId} {layer : Layer}
    (h : net.layer? id = some layer) : net.inputs id = layer.inputs := by
  rw [inputs, h, Option.elim_some]

end Network

/-! ## Building -/

/-- A network with the registry that its generated names come from. -/
structure Builder where
  network : Network := {}
  registry : NameRegistry := {}

namespace Builder

/-- The name for a new layer: the given one unless it is in use, else a fresh one. -/
def chooseName (b : Builder) (spec : LayerSpec) : Except NetworkError String × NameRegistry :=
  match spec.name with
  | some name =>
    if Table.contains name b.network.ids then (.error (.duplicateName name), b.registry)
    else (.ok name, b.registry)
  | none =>
    let (name, registry) := b.registry.fresh (Table.keys b.network.ids) spec.kind.baseName
    (.ok name, registry)

/-- Adds a layer that is fed by `inputs`.  A layer that is refused leaves the network as it is,
but a name generated for it stays used. -/
def add (b : Builder) (spec : LayerSpec) (inputs : List LayerId) :
    Except NetworkError LayerId × Builder :=
  match b.chooseName spec with
  | (.error e, registry) => (.error e, { b with registry })
  | (.ok name, registry) =>
    match b.network.place name spec inputs with
    | .error e => (.error e, { b with registry })
    | .ok network => (.ok b.network.size, { network, registry })

/-- Adds an input layer. -/
def input (b : Builder) (spec : LayerSpec) : Except NetworkError LayerId × Builder :=
  b.add spec []

/-- Adds layers one after another, each fed by the one before; `last` feeds the first. -/
def addChain (b : Builder) (last : LayerId) : List LayerSpec → Except NetworkError LayerId × Builder
  | [] => (.ok last, b)
  | spec :: specs =>
    match b.add spec [last] with
    | (.error e, b) => (.error e, b)
    | (.ok id, b) => addChain b id specs

/-- Adds an input layer and a chain of layers behind it; gives the last id.  What was added before a
layer is refused stays. -/
def chain (b : Builder) (input : LayerSpec) (specs : List LayerSpec) :
    Except NetworkError LayerId × Builder :=
  match b.input input with
  | (.error e, b) => (.error e, b)
  | (.ok id, b) => b.addChain id specs

/-- Replaces the inputs of a layer of the network. -/
def rewire (b : Builder) (id : LayerId) (inputs : List LayerId) :
    Except NetworkError Unit × Builder :=
  match b.network.rewire id inputs with
  | .error e => (.error e, b)
  | .ok network => (.ok (), { b with network })

end Builder

end LayerNet
