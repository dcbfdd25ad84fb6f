import LayerNet.Decimal.Digits
import LayerNet.Storage.Node
import LayerNet.Storage.Path
import LayerNet.Text.Utf8

/-!
# File systems

A directory tree with a current directory, and what can be done with paths in it.  A path is
followed from the root or from the current directory, part by part; every part but the last must
lead to a directory.

There are no symbolic links and no permissions but that to be executed, and no disk is ever full:
what fails here fails because of the path, or because of a device that it leads to.

Main definitions:

- `FileSystem`: the tree and the current directory.
- `FileFault`: why an operation fails, with its message.
- `FileSystem.read`, `FileSystem.write`, `FileSystem.makeDirectory`: single steps.
- `FileSystem.makeDirectories`: a directory with those above it.
-/

namespace LayerNet

/-! ## Faults -/

/-- Why an operation on files fails. -/
inductive FileFault where
  | notFound
  | notExecutable
  | permissionDenied
  | alreadyThere
  | notADirectory
  | isADirectory
  | noSpace
  | nameTooLong
  | tooManyLinks
  | outOfMemory
  | notText
  | nullInName
  | other (text : String)
deriving DecidableEq, Repr

namespace FileFault

/-- The name of a fault. -/
def text : FileFault → String
  | notFound => "No such file or directory"
  | notExecutable => "Exec format error"
  | permissionDenied => "Permission denied"
  | alreadyThere => "File exists"
  | notADirectory => "Not a directory"
  | isADirectory => "Is a directory"
  | noSpace => "No space left on device"
  | nameTooLong => "File name too long"
  | tooManyLinks => "Too many levels of symbolic links"
  | outOfMemory => "out of memory"
  | notText => "stream did not contain valid UTF-8"
  | nullInName => "file name contained an unexpected NUL byte"
  | other text => text

/-- The number of a fault of the system. -/
def number? : FileFault → Option Nat
  | notFound => some 2
  | notExecutable => some 8
  | permissionDenied => some 13
  | alreadyThere => some 17
  | notADirectory => some 20
  | isADirectory => some 21
  | noSpace => some 28
  | nameTooLong => some 36
  | tooManyLinks => some 40
  | outOfMemory | notText | nullInName | other _ => none

/-- What is said of a fault. -/
def message (fault : FileFault) : String :=
  match fault.number? with
  | some number => fault.text ++ " (os error " ++ Decimal.natText number ++ ")"
  | none => fault.text

end FileFault

/-- A directory tree with a current directory, given by the names that lead to it from the root. -/
structure FileSystem where
  root : Node := .empty
  current : List String := []

namespace FileSystem

/-! ## Following paths -/

/-- What is at a place. -/
def node? (fs : FileSystem) (place : List String) : Option Node :=
  fs.root.find? place

/-- The longest name of an entry, in bytes. -/
def maxName : Nat := 255

/-- The longest path, in bytes. -/
def maxPath : Nat := 4095

/-- The place that one part leads to from a place. -/
def step (fs : FileSystem) (place : List String) (part : String) :
    Except FileFault (List String) :=
  match fs.node? place with
  | some (.directory entries) =>
    if part = "." then .ok place
    else if part = ".." then .ok place.dropLast
    else if maxName < part.utf8ByteSize then .error .nameTooLong
    else if (Table.find? part entries).isSome then .ok (place ++ [part])
    else .error .notFound
  | some _ => .error .notADirectory
  | none => .error .notFound

/-- The place where a path begins. -/
def start (fs : FileSystem) (path : String) : List String :=
  if Path.isAbsolute path then [] else fs.current

/-- Refuses texts that are no paths. -/
def checkPath (path : String) : Except FileFault Unit :=
  if path.toList.contains '\x00' then .error .nullInName
  else if path.isEmpty then .error .notFound
  else if maxPath < path.utf8ByteSize then .error .nameTooLong
  else .ok ()

/-- The place that a path leads to, and what is there. -/
def locate (fs : FileSystem) (path : String) : Except FileFault (List String × Node) := do
  checkPath path
  let place ← (Path.parts path).foldlM fs.step (fs.start path)
  match fs.node? place with
  | none => .error .notFound
  | some node =>
    if Path.endsWithSlash path && !node.isDirectory then .error .notADirectory
    else return (place, node)

/-- The place of the directory that the last part of a path stands in, and that part. -/
def locateEntry (fs : FileSystem) (path : String) :
    Except FileFault (List String × Option String) := do
  checkPath path
  let parts := Path.parts path
  let place ← parts.dropLast.foldlM fs.step (fs.start path)
  match parts.getLast? with
  | none => return (place, none)
  | some "." => return (← fs.step place ".", none)
  | some ".." => return (← fs.step place "..", none)
  | some part =>
    match fs.step place part with
    | .ok _ | .error .notFound => return (← fs.step place ".", some part)
    | .error fault => .error fault

/-! ## Questions -/

/-- Whether a path leads anywhere. -/
def contains (fs : FileSystem) (path : String) : Bool :=
  (fs.locate path).isOk

/-- Whether a path leads to a file. -/
def isFile (fs : FileSystem) (path : String) : Bool :=
  match fs.locate path with
  | .ok (_, node) => node.isFile
  | .error _ => false

/-- Whether a path leads to a directory. -/
def isDirectory (fs : FileSystem) (path : String) : Bool :=
  match fs.locate path with
  | .ok (_, node) => node.isDirectory
  | .error _ => false

/-! ## Reading -/

/-- The content of a file.  Zeros without end fit into no memory. -/
def read (fs : FileSystem) (path : String) : Except FileFault ByteArray := do
  match (← fs.locate path).2 with
  | .file content _ => return content
  | .device device => if device.endless then .error .outOfMemory else return .empty
  | .directory _ => .error .isADirectory

/-- The content of a file as text. -/
def readText (fs : FileSystem) (path : String) : Except FileFault String := do
  match Text.Utf8.strict? (← fs.read path) with
  | some text => return text
  | none => .error .notText

/-! ## Writing -/

/-- The file system with another node at a place. -/
def putNode (fs : FileSystem) (place : List String) (node : Node) : FileSystem :=
  { fs with root := Node.put node fs.root place }

/-- The file system without what is at a place. -/
def eraseNode (fs : FileSystem) (place : List String) : FileSystem :=
  { fs with root := fs.root.erase place }

/-- Replaces the content of a file, which is made if it is missing.  A device stays as it is. -/
def write (fs : FileSystem) (path : String) (content : ByteArray) :
    Except FileFault FileSystem := do
  let (place, part) ← fs.locateEntry path
  match part with
  | none => .error .isADirectory
  | some part =>
    if Path.endsWithSlash path then .error .isADirectory
    else
      match fs.node? (place ++ [part]) with
      | some (.directory _) => .error .isADirectory
      | some (.device device) => if device.takes content then return fs else .error .noSpace
      | some (.file _ executable) => return fs.putNode (place ++ [part]) (.file content executable)
      | none => return fs.putNode (place ++ [part]) (.file content false)

/-- Replaces the content of a file by a text. -/
def writeText (fs : FileSystem) (path text : String) : Except FileFault FileSystem :=
  fs.write path text.toUTF8

/-- Makes a directory in one that is there. -/
def makeDirectory (fs : FileSystem) (path : String) : Except FileFault FileSystem := do
  match ← fs.locateEntry path with
  | (_, none) => .error .alreadyThere
  | (place, some part) =>
    match fs.node? (place ++ [part]) with
    | some _ => .error .alreadyThere
    | none => return fs.putNode (place ++ [part]) .empty

/-- Makes a directory that may be there already. -/
def ensureDirectory (fs : FileSystem) (path : String) : Except FileFault Unit × FileSystem :=
  match fs.makeDirectory path with
  | .ok fs => (.ok (), fs)
  | .error fault => (if fs.isDirectory path then .ok () else .error fault, fs)

/-- Makes a directory and those above it that are missing.  What was made before a failure stays. -/
def makeDirectories (fs : FileSystem) (path : String) : Except FileFault Unit × FileSystem :=
  if path.isEmpty then (.ok (), fs)
  else
    match fs.makeDirectory path with
    | .error .notFound =>
      match _hparent : Path.parent? path with
      | none => (.error (.other "failed to create whole tree"), fs)
      | some parent =>
        match makeDirectories fs parent with
        | (.error fault, fs) => (.error fault, fs)
        | (.ok (), fs) => fs.ensureDirectory path
    | _ => fs.ensureDirectory path
termination_by path.toList.length
decreasing_by exact Path.length_of_parent? _hparent

/-! ## Running -/

/-- Why a file cannot be started as a program; its place and content if it can. -/
def program (fs : FileSystem) (path : String) : Except FileFault (List String × ByteArray) := do
  match ← fs.locate path with
  | (place, .file content true) => return (place, content)
  | _ => .error .permissionDenied

end FileSystem

end LayerNet
