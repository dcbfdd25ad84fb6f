import LayerNet.CommandLine.Request
import LayerNet.Program
import LayerNet.Reconstruction.Session
import LayerNet.SavedGraph.Loader
import LayerNet.Settings.Discovery

/-!
# Carrying out requests

The program reads the settings of the current directory, does what it is asked to, and tells what
came of it.  The first thing that goes wrong ends it.  The runtime is a program, which a host
starts.

Main definitions:

- `Outcome`: the status, and what is written to the standard output and the standard error.
- `CompileRequest.config`, `CompileRequest.prepare`: what a compilation is started with.
- `answer`: what comes of arguments.
-/

namespace LayerNet.CommandLine

/-! ## Outcomes -/

/-- What comes of a run of the program. -/
structure Outcome where
  code : Nat := 0
  stdout : String := ""
  stderr : String := ""
deriving DecidableEq, Repr

/-- An outcome of something that went wrong after `said` was written to the standard error. -/
def Outcome.failure (message : String) (said : String) : Outcome where
  code := 1
  stderr := said ++ "error: " ++ message ++ "\n"

/-- The variable that the interpreter is taken from. -/
def interpreterVariable : String :=
  "KGRAPH_PYTHON"

/-- The program that scripts are run with. -/
def interpreterOf (environment : Table String) (settings : Settings) : Program where
  name := settings.program (Table.find? interpreterVariable environment)
  environment := environment

/-- The settings of the current directory. -/
def currentSettings (files : FileSystem) : Except ConfigError Settings :=
  Settings.discover files (Path.ofPlace files.current)

/-! ## Compilation -/

/-- The optimizer that is asked for, with the learning rate that is asked for. -/
def CompileRequest.chosenOptimizer (r : CompileRequest) (settings : Settings) :
    Except String Optimizer := do
  let o ← match r.optimizer with
    | none => pure settings.compileConfig.optimizer
    | some name =>
      match settings.optimizerNamed name with
      | some o => pure o
      | none => .error ("--optimizer: " ++ Optimizer.unknownMessage name)
  match r.learningRate with
  | some rate => return { o with learningRate := rate }
  | none => return o

/-- The configuration that is asked for; what is not asked for is as it is settled. -/
def CompileRequest.config (r : CompileRequest) (settings : Settings) :
    Except String CompileConfig := do
  let settled := settings.compileConfig
  let loss ← match r.loss with
    | none => pure settled.loss
    | some name =>
      match Loss.ofName? name with
      | some loss => pure loss
      | none => .error ("--loss: " ++ Loss.unknownMessage name)
  let optimizer ← r.chosenOptimizer settings
  return {
    saveDirectory := r.saveDirectory.getD settled.saveDirectory
    loss
    optimizer
    batchSize := r.batchSize.getD settled.batchSize
    infoDirectory := r.infoDirectory.or settled.infoDirectory
    cpuInference := r.cpuInference || settled.cpuInference }

/-- The model definition in a file. -/
def readDefinition (files : FileSystem) (path : String) : Except String Json :=
  match files.readText path with
  | .error fault => .error ("cannot read '" ++ path ++ "': " ++ fault.message)
  | .ok text =>
    (Json.parse text).mapError fun fault =>
      "'" ++ path ++ "' is not valid JSON: " ++ (ReadFault.document fault).message

/-- What a compilation is started with: the settings, the configuration and the definition. -/
def CompileRequest.prepare (r : CompileRequest) (files : FileSystem) :
    Except String (Settings × CompileConfig × Json) := do
  let settings ← (currentSettings files).mapError ConfigError.message
  let config ← r.config settings
  return (settings, config, ← readDefinition files r.input)

variable [Host]

/-- Compiles a model. -/
def CompileRequest.answer (environment : Table String) (r : CompileRequest) (files : FileSystem) :
    Outcome × FileSystem :=
  match r.prepare files with
  | .error message => (.failure message "", files)
  | .ok (settings, config, definition) =>
    let program := interpreterOf environment settings
    match program.isAvailable files with
    | (false, files) =>
      (.failure ("runtime '" ++ program.name ++ "' cannot be started (set " ++ interpreterVariable
        ++ " or [runtime] interpreter)") "", files)
    | (true, files) =>
      let said := "Compiling " ++ r.input ++ "...\n"
      let (result, world) := (compileDefinition program.bridge definition [] config).run ⟨files, []⟩
      match result with
      | .error e => (.failure e.message said, world.files)
      | .ok model =>
        let saved := "Saved model to " ++ model.directory ++ " (signatures: "
          ++ ", ".intercalate model.signatures ++ ")\n"
        (⟨0, model.fingerprint ++ "\n", said ++ saved⟩, world.files)

/-! ## Reconstruction -/

/-- The options that are asked for; what is not asked for is as it is settled. -/
def DecompileRequest.options (r : DecompileRequest) (settings : Settings) : ReconstructionOptions :=
  let settled := settings.reconstruction
  { settled with
    functionMarker := r.marker.getD settled.functionMarker
    includeMainGraph := r.includeMain || settled.includeMainGraph }

/-- Reconstructs the statements of a saved model. -/
def DecompileRequest.answer (environment : Table String) (r : DecompileRequest)
    (files : FileSystem) : Outcome × FileSystem :=
  match currentSettings files with
  | .error e => (.failure e.message "", files)
  | .ok settings =>
    let bridge := (interpreterOf environment settings).bridge
    let (result, world) := (loadGraph bridge r.input).run ⟨files, []⟩
    match result with
    | .error e => (.failure e.message "", world.files)
    | .ok graph =>
      let text := graph.statements (r.options settings) ++ "\n"
      match r.output with
      | none => ({ stdout := text }, world.files)
      | some path =>
        match world.files.writeText path text with
        | .error fault =>
          (.failure ("cannot write '" ++ path ++ "': " ++ fault.message) "", world.files)
        | .ok files => ({ stderr := "Wrote " ++ path ++ "\n" }, files)

/-! ## Arguments -/

/-- What comes of arguments, given the variables of the surroundings and the files; the files are
given back as they are left. -/
def answer (environment : Table String) (arguments : List String) (files : FileSystem) :
    Outcome × FileSystem :=
  match Request.read arguments with
  | .error (.shows text) => ({ stdout := text }, files)
  | .error (.usage error) =>
    ({ code := 2
       stderr := "error: " ++ error.message ++ "\n\nFor more information, try '--help'.\n" }, files)
  | .ok (.compile request) => request.answer environment files
  | .ok (.decompile request) => request.answer environment files

end LayerNet.CommandLine
