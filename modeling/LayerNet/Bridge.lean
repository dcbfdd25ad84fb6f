import LayerNet.Storage.FileSystem

/-!
# Bridges to a runtime

Models are trained, and graphs read out of saved models, by a runtime outside of this library.  A
bridge hands it a script and a payload; the runtime may change files, and writes some output or
fails.

Main definitions:

- `BridgeError`: why a run fails, with its message.
- `Bridge`: a runtime, as a function of what it is given and of the files that it finds.
- `Effect`: actions on files that may call a bridge.
-/

namespace LayerNet

/-- What a run that succeeds has written. -/
structure RuntimeOutput where
  stdout : String := ""
  stderr : String := ""
deriving DecidableEq, Repr

/-- Why a run fails. -/
inductive BridgeError where
  | spawn (program : String) (fault : FileFault)
  | io (fault : FileFault)
  | exit (status : String) (output : RuntimeOutput)
  | malformed (message stdout : String)
deriving DecidableEq, Repr

/-- What is said of an error. -/
def BridgeError.message : BridgeError → String
  | .spawn program fault => "failed to start runtime '" ++ program ++ "': " ++ fault.message
  | .io fault => "runtime i/o failed: " ++ fault.message
  | .exit status output =>
    "runtime exited with " ++ status ++ "\n--- stdout ---\n" ++ output.stdout
      ++ "\n--- stderr ---\n" ++ output.stderr
  | .malformed message stdout =>
    "runtime produced unparsable output: " ++ message ++ "\n--- stdout ---\n" ++ stdout

/-- A runtime: given a script, a payload and the files, it gives its output or an error, and the
files as it leaves them. -/
abbrev Bridge := String → String → FileSystem → Except BridgeError RuntimeOutput × FileSystem

/-- What a runtime was given. -/
structure Call where
  script : String
  payload : String
deriving DecidableEq, Repr

/-- The files, and the calls of bridges so far. -/
structure World where
  files : FileSystem := {}
  calls : List Call := []

/-- Actions that may fail with an error of type `ε`; what was done before a failure stays done. -/
abbrev Effect (ε : Type) := ExceptT ε (StateM World)

namespace Effect

/-- A result that is had already. -/
def ofExcept {ε α : Type} (result : Except ε α) : Effect ε α :=
  ExceptT.mk (pure result)

/-- A change of the files that may fail half-way. -/
def onFiles {ε α : Type} (change : FileSystem → Except ε α × FileSystem) : Effect ε α :=
  ExceptT.mk fun world =>
    let (result, files) := change world.files
    (result, { world with files })

/-- A change of the files that either succeeds or leaves them as they are. -/
def replaceFiles {ε : Type} (change : FileSystem → Except ε FileSystem) : Effect ε Unit :=
  onFiles fun files =>
    match change files with
    | .ok changed => (.ok (), changed)
    | .error e => (.error e, files)

/-- What the files say. -/
def askFiles {ε α : Type} (question : FileSystem → α) : Effect ε α :=
  onFiles fun files => (.ok (question files), files)

/-- A call of a bridge. -/
def call (bridge : Bridge) (script payload : String) : Effect BridgeError RuntimeOutput :=
  ExceptT.mk fun world =>
    let (result, files) := bridge script payload world.files
    (result, ⟨files, world.calls ++ [⟨script, payload⟩]⟩)

end Effect

end LayerNet
