import LayerNet.Bridge
import LayerNet.Digest.Blake3
import LayerNet.Json.Printer
import LayerNet.Network.Assembly
import LayerNet.Training.Loss
import LayerNet.Training.Optimizer
import LayerNet.Training.Script

/-!
# Compilation of models

A model definition becomes a saved model: the training script and a payload are handed to a runtime,
which has to leave a saved model in the directory of the model.  A marker there tells what the model
was made from.

Main definitions:

- `CompileConfig`: all that is needed besides the model definition.
- `CompileError`: why a compilation fails, with its message.
- `compileDefinition`: the compilation of a model definition.
- `compileNetwork`: the compilation of what is behind outputs of a network.
-/

namespace LayerNet

/-! ## Configurations -/

/-- What is needed besides the model definition. -/
structure CompileConfig where
  saveDirectory : String
  loss : Loss := default
  optimizer : Optimizer := default
  /-- the first dimension of the tensors that the model is tried with -/
  batchSize : Nat := 1
  /-- where descriptions of the model are written, if anywhere -/
  infoDirectory : Option String := none
  /-- whether a second copy is saved for use without an accelerator -/
  cpuInference : Bool := false

/-- The payload of a compilation; the model definition is in it as a text. -/
def CompileConfig.payload (config : CompileConfig) (definition : Json) : Json :=
  .obj [("model_config", .str definition.sorted.compact),
    ("optimizer", config.optimizer.toJson),
    ("loss", .str config.loss.name),
    ("save_dir", .str config.saveDirectory),
    ("model_definition_save_dir", .ofOption .str config.infoDirectory),
    ("batch_size", .ofNat config.batchSize),
    ("cpu_inference", .bool config.cpuInference)]

/-! ## Names -/

/-- The file of a saved model. -/
def savedModelFile : String :=
  "saved_model.pb"

/-- The file that tells what a saved model was made from. -/
def markerFile : String :=
  "kgraph-version"

/-- The file that a model definition is written to. -/
def definitionFile : String :=
  "model.json"

/-- The directory of the copy for use without an accelerator. -/
def cpuDirectory : String :=
  "cpu"

/-- The version of the program. -/
def programVersion : String :=
  "0.1.0"

/-- What can be done with a saved model. -/
def modelSignatures : List String :=
  ["learn", "evaluate", "predict"]

/-! ## Errors -/

/-- Why a compilation fails. -/
inductive CompileError where
  | network (error : NetworkError)
  | bridge (error : BridgeError)
  | write (path : String) (fault : FileFault)
  | missingModel (directory : String)
  | batchSize

/-- What is said of an error. -/
def CompileError.message : CompileError → String
  | .network error => error.message
  | .bridge error => error.message
  | .write path fault => "cannot write '" ++ path ++ "': " ++ fault.message
  | .missingModel directory => "runtime finished but '" ++ directory ++ "' holds no saved model"
  | .batchSize => "batch size must be at least 1"

/-! ## Steps -/

/-- A model that was saved. -/
structure CompiledModel where
  directory : String
  signatures : List String
  /-- what the runtime wrote -/
  log : String
  fingerprint : String
deriving DecidableEq, Repr

/-- The path of the saved model. -/
def CompiledModel.path (model : CompiledModel) : String :=
  Path.join model.directory savedModelFile

/-- Writes a text to a file. -/
def writeOutput (path text : String) : Effect CompileError Unit :=
  .replaceFiles fun files => (files.writeText path text).mapError (.write path)

/-- Makes a directory and those above it. -/
def makeOutputDirectory (path : String) : Effect CompileError Unit :=
  .onFiles fun files =>
    let (result, files) := files.makeDirectories path
    (result.mapError (.write path), files)

/-- Fails if a directory has no saved model. -/
def requireModel (directory : String) : Effect CompileError Unit := do
  if !(← Effect.askFiles fun files => files.isFile (Path.join directory savedModelFile)) then
    throw (.missingModel directory)

/-- Calls the runtime. -/
def callRuntime (bridge : Bridge) (script payload : String) : Effect CompileError RuntimeOutput :=
  (Effect.call bridge script payload).adapt .bridge

/-- The digest of a script followed by a payload. -/
def fingerprint (script payload : String) : String :=
  Blake3.hexDigest (script ++ payload).toUTF8

/-! ## Compilation -/

/-- Compiles a model definition whose own layer classes have the given source texts. -/
def compileDefinition (bridge : Bridge) (definition : Json) (definitions : List String)
    (config : CompileConfig) : Effect CompileError CompiledModel := do
  if config.batchSize = 0 then
    throw .batchSize
  if let some directory := config.infoDirectory then
    makeOutputDirectory directory
    writeOutput (Path.join directory definitionFile) definition.sorted.spread
  makeOutputDirectory config.saveDirectory
  let script := Script.training definitions
  let payload := (config.payload definition).compact
  let output ← callRuntime bridge script payload
  requireModel config.saveDirectory
  if config.cpuInference then
    requireModel (Path.join config.saveDirectory cpuDirectory)
  let fingerprint := fingerprint script payload
  writeOutput (Path.join config.saveDirectory markerFile)
    (programVersion ++ "\n" ++ fingerprint ++ "\n")
  return {
    directory := config.saveDirectory
    signatures := modelSignatures
    log := output.stdout
    fingerprint }

/-- Compiles what is behind outputs of a network. -/
def compileNetwork (bridge : Bridge) (net : Network) (outputs : List LayerId)
    (config : CompileConfig) : Effect CompileError CompiledModel := do
  let assembly ← Effect.ofExcept ((net.assemble outputs).mapError .network)
  compileDefinition bridge assembly.definition.toJson assembly.definitions config

end LayerNet
