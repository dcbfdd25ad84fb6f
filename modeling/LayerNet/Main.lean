import LayerNet.CommandLine.Answer

/-!
# The command line program

The files that a run can reach are taken up, the answer is found without touching them, and what it
changed is put back.

Main definitions:

- `takeUp`: the files of the current directory and of the paths among the arguments.
- `putBack`: makes the files what they have become.
- `main`: one run of the program.
-/

namespace LayerNet.CommandLine

/-! ## Taking files up -/

/-- A file as it is taken up; one that names its interpreter can be started. -/
def fileNode (content : ByteArray) : Node :=
  .file content ((content.toList.take 2) == [35, 33])

/-- What an entry of a directory holds. -/
partial def takeUpEntry (entry : IO.FS.DirEntry) : IO Node := do
  if ← entry.path.isDir then
    let entries ← (← entry.path.readDir).mapM fun e => do return (e.fileName, ← takeUpEntry e)
    return .directory (Table.ofPairs entries.toList)
  else return fileNode (← IO.FS.readBinFile entry.path)

/-- The parts of the current directory's path. -/
def currentPlace : IO (List String) := do
  return Path.parts (← IO.currentDir).toString

/-- The files with those of a directory, if it is one. -/
def takeUpDirectory (files : FileSystem) (path : String) : IO FileSystem := do
  let directory := (← IO.currentDir) / path
  if ← directory.isDir then
    let place := Path.parts (← IO.FS.realPath directory).toString
    (← directory.readDir).foldlM
      (fun files e => do return files.putNode (place ++ [e.fileName]) (← takeUpEntry e))
      (files.putNode place ((files.node? place).getD .empty))
  else return files

/-- The files with one more, if it is there. -/
def takeUpFile (files : FileSystem) (path : String) : IO FileSystem := do
  let file := (← IO.currentDir) / path
  if (← file.pathExists) && !(← file.isDir) then
    let place := Path.parts (← IO.FS.realPath file).toString
    return files.putNode place (fileNode (← IO.FS.readBinFile file))
  else return files

/-- The files of the current directory, of the settings above it, and of the paths among the
arguments. -/
def takeUp (arguments : List String) : IO FileSystem := do
  let current ← currentPlace
  let settings := (Path.ancestors (Path.ofPlace current)).map fun directory =>
    Path.join directory settingsFile
  let files : FileSystem := {}
  let files := files.putNode ["dev", "null"] (.device .null)
  let files := files.putNode ["dev", "zero"] (.device .zero)
  let files ← settings.foldlM takeUpFile files
  let files ← takeUpDirectory files "."
  let files ← (arguments.filter Path.isAbsolute).foldlM
    (fun files path => do takeUpDirectory (← takeUpFile files path) path) files
  return { files with current }

/-! ## Putting files back -/

/-- Makes the files that were taken up what they have become. -/
def putBack (before after : FileSystem) : IO Unit := do
  let old := before.root.listing "/"
  for (path, content) in after.root.listing "/" do
    match content with
    | none => IO.FS.createDirAll path
    | some bytes =>
      let same := old.any fun entry =>
        entry.1 == path && (entry.2.map ByteArray.toList) == some bytes.toList
      unless same do IO.FS.writeBinFile path bytes
  for (path, content) in old.reverse do
    unless after.contains path do
      if content.isSome then IO.FS.removeFile path else IO.FS.removeDir path

/-! ## The program -/

/-- The variables of the surroundings that matter. -/
def surroundingVariables : IO (Table String) := do
  let names := ["HOME", "PATH", interpreterVariable]
  let values ← names.mapM fun name => do return (name, ← IO.getEnv name)
  return values.filterMap fun v => v.2.map (v.1, ·)

/-- One run of the program: its status. -/
def runProgram (arguments : List String) : IO UInt32 := do
  let before ← takeUp arguments
  let (outcome, after) := answer (← surroundingVariables) arguments before
  putBack before after
  IO.print outcome.stdout
  IO.eprint outcome.stderr
  return outcome.code.toUInt32

end LayerNet.CommandLine

/-- Runs the program on its arguments. -/
def main (arguments : List String) : IO UInt32 :=
  LayerNet.CommandLine.runProgram arguments
