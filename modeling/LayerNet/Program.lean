import LayerNet.Bridge
import LayerNet.Signal
import LayerNet.Text.Utf8

/-!
# Programs

A runtime is reached by starting a program, which is given a script as a file and a payload as its
input.  How programs are started is no part of the library: it is a parameter, of which only two
things are known.

Main definitions:

- `ProgramEnd`: how a program ends, with its text.
- `Program`: a program and the variables that it is given.
- `Host`: what starts programs.
- `Program.isAvailable`: whether a program can be started.
- `Program.bridge`: a program as a bridge to a runtime.
-/

namespace LayerNet

/-! ## Ends -/

/-- How a program ends. -/
inductive ProgramEnd where
  | exited (status : UInt8)
  | signalled (signal : Nat)
deriving DecidableEq, Repr

/-- What is said of the end of a program. -/
def ProgramEnd.text : ProgramEnd → String
  | exited status => "exit status: " ++ Decimal.natText status.toNat
  | signalled signal =>
    let name := match Signal.name? signal with
      | some name => " (SIG" ++ name ++ ")"
      | none => ""
    "signal: " ++ Decimal.natText signal ++ name

/-- What comes of a run: how the program ended, and what it wrote. -/
structure ProgramResult where
  ending : ProgramEnd
  stdout : ByteArray
  stderr : ByteArray

/-! ## Programs -/

/-- A program that is given by its name or path, and the variables that it is given. -/
structure Program where
  name : String
  environment : Table String := []

/-- What starts programs: given a program with its arguments and its input, and the files, it tells
why the program cannot be started or what comes of it, and gives the files as they are left.  A
program that is not started changes nothing, and no program moves the one that started it to
another directory. -/
class Host where
  start : Program → List String → ByteArray → FileSystem →
    Except FileFault ProgramResult × FileSystem
  left_of_error : ∀ {program arguments input files fault left},
    start program arguments input files = (.error fault, left) → left = files
  current_start : ∀ program arguments input files,
    (start program arguments input files).2.current = files.current

namespace Program

variable [Host]

/-- Whether a program can be started and is content with being asked for its version. -/
def isAvailable (p : Program) (files : FileSystem) : Bool × FileSystem :=
  match Host.start p ["--version"] .empty files with
  | (.ok result, files) => (result.ending == .exited 0, files)
  | (.error _, files) => (false, files)

/-! ## Bridges -/

/-- Where the script stands while it runs. -/
def scriptPlace : List String :=
  ["tmp", "kgraph-script.py"]

/-- What has become of a run as a bridge tells it. -/
def outcome (p : Program) : Except FileFault ProgramResult → Except BridgeError RuntimeOutput
  | .error fault => .error (.spawn p.name fault)
  | .ok result =>
    let output : RuntimeOutput :=
      ⟨Text.Utf8.lossy result.stdout, Text.Utf8.lossy result.stderr⟩
    if result.ending = .exited 0 then .ok output else .error (.exit result.ending.text output)

/-- A program as a bridge: it is given the script as a file and the payload as its input. -/
def bridge (p : Program) : Bridge := fun script payload files =>
  let ready := files.putNode scriptPlace (.file script.toUTF8 false)
  let (result, files) := Host.start p [Path.ofPlace scriptPlace] payload.toUTF8 ready
  (p.outcome result, files.eraseNode scriptPlace)

end Program

end LayerNet
