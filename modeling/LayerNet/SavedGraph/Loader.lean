import LayerNet.SavedGraph.Reader
import LayerNet.Text.Lines
import LayerNet.Training.Compilation

/-!
# Loading saved graphs

The directory of a saved model may hold a document of its graph.  If it does not, a runtime is asked
for one: it writes the document on the last line of its output, and may write other things before.

Main definitions:

- `LoadError`: why no graph is had, with its message.
- `loadDocument`, `loadThrough`: the graph from the document, or through a runtime.
- `loadGraph`: the graph of a directory.
-/

namespace LayerNet

/-- The file of the document of a graph. -/
def graphFile : String :=
  "graph_def.json"

/-- Why no graph is had. -/
inductive LoadError where
  | unreadable (path : String) (fault : FileFault)
  | missingModel (directory : String)
  | document (fault : ReadFault)
  | bridge (error : BridgeError)
deriving DecidableEq, Repr

/-- What is said of a document that is not a saved graph. -/
def ReadFault.message : ReadFault → String
  | .document .malformed => "the document is malformed"
  | .document .unfinished => "the document ends too early"
  | .shape fault => fault.message

/-- What is said of a directory without a graph. -/
def cannotLoad (path reason : String) : String :=
  "cannot load saved model from '" ++ path ++ "': " ++ reason

/-- What is said of an error. -/
def LoadError.message : LoadError → String
  | .unreadable path fault => cannotLoad path fault.message
  | .missingModel directory => cannotLoad directory ("no " ++ savedModelFile ++ " found")
  | .document fault => "graph dump is not valid JSON: " ++ fault.message
  | .bridge error => error.message

/-- Reads the graph of a directory from its document. -/
def loadDocument (files : FileSystem) (directory : String) : Except LoadError SavedGraph :=
  let path := Path.join directory graphFile
  match files.readText path with
  | .error fault => .error (.unreadable path fault)
  | .ok text => (SavedGraph.parse text).mapError .document

/-- The payload with which a runtime is asked for the graph of a directory. -/
def graphRequest (directory : String) : String :=
  (Json.obj [("model_dir", .str directory)]).compact

/-- The last line of an output that is not blank. -/
def lastLine (output : String) : String :=
  ((Text.lines output).reverse.find? fun line => !Text.isBlankText line).getD ""

/-- Asks a runtime for the graph of a directory that holds a saved model. -/
def loadThrough (bridge : Bridge) (directory : String) : Effect LoadError SavedGraph := do
  if !(← Effect.askFiles fun files => files.isFile (Path.join directory savedModelFile)) then
    throw (.missingModel directory)
  let output ← (Effect.call bridge Script.graphDump (graphRequest directory)).adapt .bridge
  match SavedGraph.parse (lastLine output.stdout) with
  | .ok graph => return graph
  | .error fault => throw (.bridge (.malformed fault.message output.stdout))

/-- The graph of a directory: from its document if there is one, else through a runtime. -/
def loadGraph (bridge : Bridge) (directory : String) : Effect LoadError SavedGraph := do
  if ← Effect.askFiles fun files => files.isFile (Path.join directory graphFile) then
    Effect.onFiles fun files => (loadDocument files directory, files)
  else loadThrough bridge directory

end LayerNet
