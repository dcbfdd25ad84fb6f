import LayerNet.Json.Basic
import LayerNet.Text.Search

/-!
# Saved graphs

The computation graph of a saved model: the nodes of its main graph and of its functions.  Operands
refer to nodes by name; a reference may begin with `^` (an order without a value) and may end with a
colon and the output that is meant.

Main definitions:

- `SavedGraph`: nodes and functions, and `SavedGraph.toJson`.
- `cleanName`: the node that a reference means.
- `SavedGraph.functionsMatching`: the functions of interest, sorted by name.
-/

namespace LayerNet

/-- A node: an operation with operands. -/
structure GraphNode where
  name : String
  op : String
  inputs : List String := []
deriving DecidableEq, Repr

/-- A named list of nodes that is called from elsewhere. -/
structure GraphFunction where
  name : String
  nodes : List GraphNode := []
deriving DecidableEq, Repr

/-- The main graph with its functions. -/
structure SavedGraph where
  nodes : List GraphNode := []
  functions : List GraphFunction := []
deriving DecidableEq, Repr

/-! ## References -/

/-- The characters of a reference between a leading `^`, if there is one, and the first colon. -/
def cleanChars : List Char → List Char
  | '^' :: cs => cs.takeWhile (· != ':')
  | cs => cs.takeWhile (· != ':')

/-- The name of the node that a reference means. -/
def cleanName (reference : String) : String :=
  String.ofList (cleanChars reference.toList)

namespace GraphNode

/-- The name of a node as references give it. -/
def cleanedName (node : GraphNode) : String :=
  cleanName node.name

/-- The node of a given name; of several the last. -/
def lookup? (nodes : List GraphNode) (name : String) : Option GraphNode :=
  nodes.reverse.find? fun node => node.cleanedName == name

/-- The document of a node. -/
def toJson (node : GraphNode) : Json :=
  .obj [("name", .str node.name), ("op", .str node.op), ("inputs", .arr (node.inputs.map .str))]

theorem mem_of_lookup? {nodes : List GraphNode} {name : String} {node : GraphNode}
    (h : lookup? nodes name = some node) : node ∈ nodes :=
  List.mem_reverse.1 (List.mem_of_find?_eq_some h)

/-- Nodes are looked up by their cleaned names. -/
theorem cleanedName_of_lookup? {nodes : List GraphNode} {name : String} {node : GraphNode}
    (h : lookup? nodes name = some node) : node.cleanedName = name := by
  simpa using List.find?_some h

end GraphNode

/-- The document of a function. -/
def GraphFunction.toJson (function : GraphFunction) : Json :=
  .obj [("name", .str function.name), ("nodes", .arr (function.nodes.map GraphNode.toJson))]

namespace SavedGraph

/-- The document of a graph. -/
def toJson (graph : SavedGraph) : Json :=
  .obj [("nodes", .arr (graph.nodes.map GraphNode.toJson)),
    ("functions", .arr (graph.functions.map GraphFunction.toJson))]

/-- The functions whose name contains the marker, sorted by name; functions of one name keep their
order. -/
def functionsMatching (graph : SavedGraph) (marker : String) : List GraphFunction :=
  (graph.functions.filter fun function => Text.occursIn marker function.name).mergeSort
    fun f g => decide (f.name ≤ g.name)

end SavedGraph

end LayerNet
