import LayerNet.CommandLine.Arguments
import LayerNet.Training.Compilation

/-!
# Requests

What the program is asked to do: to compile a model, or to reconstruct the statements of a saved
one.

Main definitions:

- `CompileRequest`, `DecompileRequest`: requests with their options.
- `Request.read`: the request that arguments make.
-/

namespace LayerNet.CommandLine

/-! ## Commands -/

/-- The name of the program. -/
def programName : String :=
  "kgraph"

/-- The command that compiles models. -/
def compileSpec : CommandSpec where
  name := "compile"
  about := "Compile a model definition into a trainable saved model"
  inputAbout := "Model definition JSON (as written to model.json)"
  options :=
    [{ name := "save-dir", letter := some 's', kind := .path, placeholder := "DIR"
       about := "Directory the saved model is written to (default from kgraph.toml)" },
     { name := "batch-size", kind := .count, placeholder := "BATCH_SIZE"
       about := "Batch size used to trace the entry points" },
     { name := "loss", kind := .text, placeholder := "LOSS"
       about := "Loss: mse, binary_crossentropy or sparse_categorical_crossentropy" },
     { name := "optimizer", kind := .text, placeholder := "OPTIMIZER"
       about := "Optimizer: sgd, adam, adamax, nadam, rmsprop, adagrad, adadelta, ftrl" },
     { name := "learning-rate", kind := .number, placeholder := "LEARNING_RATE"
       about := "Learning rate for the optimizer" },
     { name := "info-dir", kind := .path, placeholder := "DIR"
       about := "Also write model.json and a model summary here" },
     { name := "cpu-inference", kind := .flag
       about := "Also save a CPU-only copy for inference" }]

/-- The command that reconstructs statements. -/
def decompileSpec : CommandSpec where
  name := "decompile"
  about := "Reconstruct constructor statements from a saved model's graph"
  inputAbout := "Saved model directory (saved_model.pb or graph_def.json)"
  options :=
    [{ name := "marker", kind := .text, placeholder := "MARKER"
       about := "Decompile functions whose name contains this marker" },
     { name := "include-main", kind := .flag
       about := "Keep statements from the main graph" },
     { name := "output", letter := some 'o', kind := .path, placeholder := "OUTPUT"
       about := "Write the statements to a file instead of stdout" }]

/-- What is shown of the version. -/
def versionText : String :=
  programName ++ " " ++ programVersion ++ "\n"

/-- What is shown to one who asks for help with the program. -/
def helpText : String :=
  "Build, compile and decompile Keras-style layer graphs\n\nUsage: " ++ programName
    ++ " <COMMAND>\n\nCommands:\n"
    ++ "  compile    " ++ compileSpec.about ++ "\n"
    ++ "  decompile  " ++ decompileSpec.about ++ "\n"
    ++ "  help       Print this message or the help of the given subcommand(s)\n\nOptions:\n"
    ++ "  -h, --help     Print help\n  -V, --version  Print version\n"

/-- What is shown to one who asks for help with help. -/
def helpHelpText : String :=
  "Print this message or the help of the given subcommand(s)\n\nUsage: " ++ programName
    ++ " help [COMMAND]...\n\nArguments:\n"
    ++ "  [COMMAND]...  Print help for the subcommand(s)\n"

/-! ## Requests -/

/-- A request to compile a model. -/
structure CompileRequest where
  input : String
  saveDirectory : Option String := none
  batchSize : Option Nat := none
  loss : Option String := none
  optimizer : Option String := none
  learningRate : Option Float := none
  infoDirectory : Option String := none
  cpuInference : Bool := false

/-- A request to reconstruct statements. -/
structure DecompileRequest where
  input : String
  marker : Option String := none
  includeMain : Bool := false
  output : Option String := none

/-- What the program is asked to do. -/
inductive Request where
  | compile (request : CompileRequest)
  | decompile (request : DecompileRequest)

/-- The arguments of a command, its input among them. -/
def CommandSpec.readAll (spec : CommandSpec) (arguments : List String) :
    Except Stop (String × Given) := do
  let given ← spec.read programName {} arguments
  match given.input with
  | some input => return (input, given)
  | none => .error (.usage .missingInput)

/-- The request to compile a model that arguments make. -/
def CompileRequest.read (arguments : List String) : Except Stop CompileRequest := do
  let (input, given) ← compileSpec.readAll arguments
  return {
    input
    saveDirectory := given.value? "save-dir"
    batchSize := (given.value? "batch-size").bind Decimal.word64?
    loss := given.value? "loss"
    optimizer := given.value? "optimizer"
    learningRate := (given.value? "learning-rate").bind Decimal.float?
    infoDirectory := given.value? "info-dir"
    cpuInference := given.has "cpu-inference" }

/-- The request to reconstruct statements that arguments make. -/
def DecompileRequest.read (arguments : List String) : Except Stop DecompileRequest := do
  let (input, given) ← decompileSpec.readAll arguments
  return {
    input
    marker := given.value? "marker"
    includeMain := given.has "include-main"
    output := given.value? "output" }

/-- What is shown to one who asks for help with a command. -/
def helpWith : List String → Stop
  | [] => .shows helpText
  | ["compile"] => .shows (compileSpec.helpText programName)
  | ["decompile"] => .shows (decompileSpec.helpText programName)
  | ["help"] => .shows helpHelpText
  | "compile" :: name :: _ | "decompile" :: name :: _ | "help" :: name :: _ | name :: _ =>
    .usage (.unknownCommand name)

/-- The request that arguments make. -/
def Request.read : List String → Except Stop Request
  | [] => .error (.usage .noCommand)
  | "compile" :: rest => (CompileRequest.read rest).map .compile
  | "decompile" :: rest => (DecompileRequest.read rest).map .decompile
  | "help" :: rest => .error (helpWith rest)
  | "--help" :: _ => .error (.shows helpText)
  | "--version" :: _ => .error (.shows versionText)
  | argument :: _ =>
    match argument.toList with
    | '-' :: 'h' :: _ => .error (.shows helpText)
    | '-' :: 'V' :: _ => .error (.shows versionText)
    | '-' :: _ :: _ => .error (.usage (.unexpected argument))
    | _ => .error (.usage (.unknownCommand argument))

end LayerNet.CommandLine
