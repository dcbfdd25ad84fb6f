import LayerNet.Shell.Modes
import LayerNet.Shell.Escapes
import LayerNet.Shell.Tools.Input
import LayerNet.Shell.Tools.Options

/-!
# Tools for files

The tools that make, move and remove files and directories.

Main definitions:

- `mkdirTool`, `rmdirTool`, `touchTool`, `chmodTool`: single steps.
- `rmTool`: removes what is below a path.
- `cpTool`, `mvTool`: copies and moves.
-/

namespace LayerNet.Shell

/-! ## Operands -/

/-- Complains that a tool cannot do something, for a reason of the file system. -/
def cannot (tool what path : String) (fault : FileFault) : Run Nat := do
  complain (tool ++ ": " ++ what ++ " " ++ shellQuoted path ++ ": " ++ fault.text)
  return 1

/-- Does something for each operand; the status is one if any of them fails. -/
def forOperands (operands : List String) (act : String → Run Nat) : Run Nat := do
  let mut status := 0
  for operand in operands do
    status := max status (← act operand)
  return status

/-- Does something with operands, of which there must be one; else says what is missing. -/
def needingOperand (tool missing : String) (operands : List String) (act : Run Nat) : Run Nat := do
  if operands.isEmpty then
    complainOfUsage tool missing
    return 1
  else act

/-- The files with something else at a place. -/
def putAt (place : List String) (node : Node) : Run Unit :=
  modify fun s => { s with files := s.files.putNode place node }

/-- The files without what is at a place. -/
def eraseAt (place : List String) : Run Unit :=
  modify fun s => { s with files := s.files.eraseNode place }

/-- The last part of a path, without slashes behind it. -/
def lastPart (path : String) : String :=
  let kept := (path.toList.reverse.dropWhile (· = '/'))
  let name := (kept.takeWhile (· ≠ '/')).reverse
  if name.isEmpty && !path.isEmpty then "/" else String.ofList name

/-- A path with a name behind it. -/
def below (path name : String) : String :=
  if path.endsWith "/" then path ++ name else path ++ "/" ++ name

/-! ## Directories -/

/-- The paths from the first part of a path on. -/
def pathsTo (path : String) : List String :=
  let parts := (path.toList.splitOn '/').map String.ofList
  let step (acc : List String × String) (part : String) : List String × String :=
    let front := acc.2 ++ part
    if part.isEmpty then (acc.1, acc.2 ++ "/")
    else (front :: acc.1, front ++ "/")
  (parts.foldl step ([], "")).1.reverse

/-- Makes the directories on a path that are missing. -/
def makeEach (tool : String) (tells : Bool) : List String → Run Nat
  | [] => return 0
  | path :: rest => do
    let files := (← get).files
    if files.isDirectory (toText path) then makeEach tool tells rest
    else
      match ← tryFiles fun files => files.makeDirectory (toText path) with
      | none =>
        if tells then out (tool ++ ": created directory " ++ shellQuoted path ++ "\n")
        makeEach tool tells rest
      | some fault =>
        let fault := if fault = .alreadyThere && !rest.isEmpty then .notADirectory else fault
        cannot tool "cannot create directory" path fault

/-- Makes directories; `-p` makes those above them too. -/
def mkdirTool (tool : String) (arguments : List String) : Run Nat := do
  let table := OptionTable.ofText "m:pv" [("mode", 'm'), ("parents", 'p'), ("verbose", 'v')]
  withOptions tool 1 table arguments fun o => do
    needingOperand tool "missing operand" o.operands do
      forOperands o.operands fun path => do
        if o.has 'p' then
          if path.isEmpty then cannot tool "cannot create directory" path .notFound
          else makeEach tool (o.has 'v') (pathsTo path)
        else
          match ← tryFiles fun files => files.makeDirectory (toText path) with
          | none =>
            if o.has 'v' then out (tool ++ ": created directory " ++ shellQuoted path ++ "\n")
            return 0
          | some fault => cannot tool "cannot create directory" path fault

/-- Removes one directory that holds nothing. -/
def removeDirectory (tool : String) (o : Options) (path : String) : Run Nat := do
  let refuse (fault : FileFault) : Run Nat := do
    if o.has 'n' && fault = .other "Directory not empty" then return 0
    else cannot tool "failed to remove" path fault
  if o.has 'v' then out (tool ++ ": removing directory, " ++ shellQuoted path ++ "\n")
  match (← get).files.locate (toText path) with
  | .error fault => refuse fault
  | .ok (place, .directory []) =>
    if lastPart path = "." then refuse (.other "Invalid argument")
    else
      eraseAt place
      return 0
  | .ok (_, .directory _) => refuse (.other "Directory not empty")
  | .ok _ => refuse .notADirectory

/-- Removes directories up to the first that fails. -/
def removeDirectories (tool : String) (o : Options) : List String → Run Nat
  | [] => return 0
  | path :: rest => do
    let status ← removeDirectory tool o path
    if status ≠ 0 then return status else removeDirectories tool o rest

/-- Removes directories that hold nothing; `-p` removes those above them too. -/
def rmdirTool (tool : String) (arguments : List String) : Run Nat := do
  let table := OptionTable.ofText "pvn"
    [("parents", 'p'), ("verbose", 'v'), ("ignore-fail-on-non-empty", 'n')]
  withOptions tool 1 table arguments fun o => do
    needingOperand tool "missing operand" o.operands do
      forOperands o.operands fun path =>
        if o.has 'p' then removeDirectories tool o (pathsTo path).reverse
        else removeDirectory tool o path

/-! ## Files -/

/-- Makes files that are missing. -/
def touchTool (tool : String) (arguments : List String) : Run Nat := do
  let table := OptionTable.ofText "acd:fhmr:t:"
    [("no-create", 'c'), ("date", 'd'), ("no-dereference", 'h'), ("reference", 'r'), ("time", 't')]
  withOptions tool 1 table arguments fun o => do
    needingOperand tool "missing file operand" o.operands do
      forOperands o.operands fun path => do
        match (← get).files.locate (toText path) with
        | .ok _ => return 0
        | .error .notFound =>
          if o.has 'c' then return 0
          match ← tryFiles fun files => files.write (toText path) .empty with
          | none => return 0
          | some fault =>
            let fault := if fault = .isADirectory then .notFound else fault
            cannot tool "cannot touch" path fault
        | .error fault => cannot tool "cannot touch" path fault

/-- The mode that changes make of a mode. -/
def modeBehind (text : String) (mode : Nat) : Option Nat :=
  if !text.isEmpty && text.toList.all Escape.isOctal then
    let n := text.toList.foldl (fun n c => 8 * n + (c.toNat - 48)) 0
    if n < 4096 then some n else none
  else changeModes mode text

/-- The mode of a file: who may start it is all that is known. -/
def modeOf : Node → Nat
  | .file _ true | .directory _ => 493
  | .file _ false => 420
  | .device _ => 438

/-- A node, and all that is below it, with other modes. -/
def withModes (change : Nat → Nat) (deep : Bool) : Nat → Node → Node
  | 0, node => node
  | fuel + 1, node =>
    match node with
    | .file content _ => .file content (change (modeOf node) &&& 73 ≠ 0)
    | .directory entries =>
      if deep then .directory (entries.map fun e => (e.1, withModes change deep fuel e.2)) else node
    | .device _ => node

/-- Says of files whether they can be started as programs. -/
def chmodTool (tool : String) (arguments : List String) : Run Nat := do
  let isMode (a : String) : Bool :=
    match a.toList with
    | '-' :: c :: cs => (c :: cs).all ['r', 'w', 'x', 'X'].contains && !(c :: cs).contains 'R'
    | _ => false
  let arguments := match arguments.span fun a => !isMode a with
    | (before, mode :: rest) =>
      before.filter (·.startsWith "-") ++ "--" :: mode
        :: before.filter (fun a => !a.startsWith "-") ++ rest
    | (before, []) => before
  let table := OptionTable.ofText "Rcfv"
    [("recursive", 'R'), ("changes", 'c'), ("silent", 'f'), ("quiet", 'f'), ("verbose", 'v')]
  withOptions tool 1 table arguments fun o => do
    match o.operands with
    | [] =>
      complainOfUsage tool "missing operand"
      return 1
    | [mode] =>
      complainOfUsage tool ("missing operand after " ++ quoted mode)
      return 1
    | text :: paths =>
      if (modeBehind text 0).isNone then
        complainOfUsage tool ("invalid mode: " ++ quoted text)
        return 1
      let change (mode : Nat) : Nat := (modeBehind text mode).getD mode
      forOperands paths fun path => do
        match (← get).files.locate (toText path) with
        | .error fault =>
          if o.has 'f' then return 1 else cannot tool "cannot access" path fault
        | .ok (place, node) =>
          putAt place (withModes change (o.has 'R') 200 node)
          return 0

/-! ## Removing -/

/-- What is said of all that is removed with a node, what is below it in front. -/
def removedLines (path : String) : Nat → Node → List String
  | 0, _ => []
  | fuel + 1, node =>
    match node with
    | .directory entries =>
      entries.flatMap (fun e => removedLines (below path (fromText e.1)) fuel e.2)
        ++ ["removed directory " ++ shellQuoted path]
    | _ => ["removed " ++ shellQuoted path]

/-- Removes files, and with `-r` directories; `-f` passes over what is missing. -/
def rmTool (tool : String) (arguments : List String) : Run Nat := do
  let table := OptionTable.ofText "dfiIrRv"
    [("dir", 'd'), ("force", 'f'), ("interactive", 'I'), ("recursive", 'r'), ("verbose", 'v'),
      ("no-preserve-root", 'I'), ("preserve-root", 'I'), ("one-file-system", 'I')]
  withOptions tool 1 table arguments fun o => do
    if o.operands.isEmpty && o.has 'f' then return 0
    needingOperand tool "missing operand" o.operands do
      let goesDown := o.hasAny ['r', 'R']
      forOperands o.operands fun path => do
        match (← get).files.locate (toText path) with
        | .error fault =>
          if o.has 'f' && (fault = .notFound || fault = .notADirectory) then return 0
          else cannot tool "cannot remove" path fault
        | .ok (place, node) =>
          let name := lastPart path
          if node.isDirectory && goesDown && (name = "." || name = "..") then
            complain (tool ++ ": refusing to remove '.' or '..' directory: skipping "
              ++ shellQuoted path)
            return 1
          else if node.isDirectory && !goesDown && !o.has 'd' then
            cannot tool "cannot remove" path .isADirectory
          else if node.isDirectory && !goesDown && !node.entries.isEmpty then
            cannot tool "cannot remove" path (.other "Directory not empty")
          else
            if o.has 'v' then
              for line in removedLines path 200 node do out (line ++ "\n")
            eraseAt place
            return 0

/-! ## Copying and moving -/

/-- How a tool copies or moves. -/
structure Transfer where
  tool : String
  moves : Bool
  goesDown : Bool
  tells : Bool
  keepsOld : Bool
  neverInside : Bool

/-- Two directories as one: entries of the first one go into the second one. -/
def mergedNode : Nat → Node → Node → Node
  | 0, new, _ => new
  | fuel + 1, new, old =>
    match new, old with
    | .directory entries, .directory _ =>
      .directory (entries.foldl
        (fun table e =>
          let there := Table.find? e.1 table
          Table.insert e.1 (there.elim e.2 fun node => mergedNode fuel e.2 node) table)
        old.entries)
    | .file content _, .file _ executable => .file content executable
    | new, _ => new

/-- What is said of all that is copied with a node. -/
def copiedLines (source target : String) : Nat → Node → List String
  | 0, _ => []
  | fuel + 1, node =>
    (shellQuoted source ++ " -> " ++ shellQuoted target)
      :: node.entries.flatMap fun e =>
        let name := fromText e.1
        copiedLines (below source name) (below target name) fuel e.2

/-- Copies or moves what is at a place to another place. -/
def transferTo (t : Transfer) (source path : String) (place goal : List String) (node : Node) :
    Run Nat := do
  let say (text : String) : Run Nat := failing 1 t.tool text
  let old? := (← get).files.node? goal
  let isBelow := place.isPrefixOf goal && place ≠ goal
  if goal = place then
    say (shellQuoted source ++ " and " ++ shellQuoted path ++ " are the same file")
  else if t.keepsOld && old?.isSome then return 0
  else if node.isDirectory && old?.any fun old => !old.isDirectory then
    say ("cannot overwrite non-directory " ++ shellQuoted path ++ " with directory "
      ++ shellQuoted source)
  else if !node.isDirectory && old?.any Node.isDirectory then
    say ("cannot overwrite directory " ++ shellQuoted path ++ " with non-directory "
      ++ (if t.moves then shellQuoted source else shellQuoted source))
  else if t.moves then
    if isBelow then
      say ("cannot move " ++ shellQuoted source ++ " to a subdirectory of itself, "
        ++ shellQuoted path)
    else if old?.any fun old => old.isDirectory && !old.entries.isEmpty then
      say ("cannot overwrite " ++ shellQuoted path ++ ": Directory not empty")
    else
      eraseAt place
      putAt goal node
      if t.tells then
        out ("renamed " ++ shellQuoted source ++ " -> " ++ shellQuoted path ++ "\n")
      return 0
  else
    let node : Node := match node with
      | .device _ => .file .empty false
      | node => node
    let copied := match old? with
      | some old => mergedNode 200 node old
      | none => node
    putAt goal copied
    if t.tells then
      for line in copiedLines source path 200 node do out (line ++ "\n")
    if isBelow then
      say ("cannot copy a directory, " ++ shellQuoted source ++ ", into itself, "
        ++ shellQuoted path)
    else return 0

/-- Copies or moves one path to another one, or into it if that is a directory. -/
def transferPath (t : Transfer) (target source : String) : Run Nat := do
  let files := (← get).files
  match files.locate (toText source) with
  | .error fault => cannot t.tool "cannot stat" source fault
  | .ok (place, node) =>
    if node.isDirectory && !t.goesDown then
      failing 1 t.tool ("-r not specified; omitting directory " ++ shellQuoted source)
    else
      let inside := files.isDirectory (toText target) && !t.neverInside
      let path := if inside then below target (lastPart source) else target
      let refuse (fault : FileFault) : Run Nat :=
        if t.moves then
          cannot t.tool ("cannot move " ++ shellQuoted source ++ " to") path fault
        else if node.isDirectory then cannot t.tool "cannot create directory" path fault
        else cannot t.tool "cannot create regular file" path fault
      let fileInSlash := Path.endsWithSlash path && !node.isDirectory
      match files.locateEntry (toText path) with
      | .error fault => refuse fault
      | .ok (above, none) => transferTo t source path place above node
      | .ok (above, some part) =>
        if fileInSlash && !files.isDirectory (toText path) then refuse .notADirectory
        else transferTo t source path place (above ++ [part]) node

/-- Copies or moves paths to the last one, or into a directory that is given. -/
def transferAll (t : Transfer) (into : Option String) (operands : List String) : Run Nat := do
  match into, operands, operands.reverse with
  | _, [], _ =>
    complainOfUsage t.tool "missing file operand"
    return 1
  | some directory, sources, _ => forOperands sources (transferPath t directory)
  | none, [source], _ =>
    complainOfUsage t.tool ("missing destination file operand after " ++ shellQuoted source)
    return 1
  | none, _, target :: sources =>
    let several := 1 < sources.length
    if several && t.neverInside then
      complainOfUsage t.tool ("extra operand " ++ shellQuoted (operands[2]?.getD ""))
      return 1
    let isDirectory := (← get).files.isDirectory (toText target)
    if several && !isDirectory then
      let fault := match (← get).files.locate (toText target) with
        | .ok _ => FileFault.notADirectory
        | .error fault => fault
      failing 1 t.tool ("target " ++ shellQuoted target ++ ": " ++ fault.text)
    else forOperands sources.reverse (transferPath t target)
  | none, _, [] => return 1

/-- Copies files, and with `-r` directories. -/
def cpTool (tool : String) (arguments : List String) : Run Nat := do
  let table := OptionTable.ofText "abdfHilLnprRst:TuvxP"
    [("archive", 'a'), ("force", 'f'), ("interactive", 'i'), ("no-clobber", 'n'),
      ("recursive", 'r'), ("target-directory", 't'), ("no-target-directory", 'T'),
      ("update", 'u'), ("verbose", 'v'), ("parents", 'P'), ("preserve", 'p')]
  withOptions tool 1 table arguments fun o =>
    transferAll
      { tool, moves := false, goesDown := o.hasAny ['r', 'R', 'a'], tells := o.has 'v'
        keepsOld := o.has 'n', neverInside := o.has 'T' }
      (o.value? 't') o.operands

/-- Moves files and directories. -/
def mvTool (tool : String) (arguments : List String) : Run Nat := do
  let table := OptionTable.ofText "bfint:Tuv"
    [("force", 'f'), ("interactive", 'i'), ("no-clobber", 'n'), ("target-directory", 't'),
      ("no-target-directory", 'T'), ("update", 'u'), ("verbose", 'v')]
  withOptions tool 1 table arguments fun o =>
    transferAll
      { tool, moves := true, goesDown := true, tells := o.has 'v', keepsOld := o.has 'n'
        neverInside := o.has 'T' }
      (o.value? 't') o.operands

/-- Makes a second name for a file, which then holds the same. -/
def lnTool (tool : String) (arguments : List String) : Run Nat := do
  let table := OptionTable.ofText "bfinsrt:TvLP"
    [("force", 'f'), ("symbolic", 's'), ("target-directory", 't'), ("verbose", 'v')]
  withOptions tool 1 table arguments fun o => do
    let files := (← get).files
    let (target, sources) := match o.value? 't', o.operands.reverse with
      | some directory, sources => (directory, sources.reverse)
      | none, [source] => (".", [source])
      | none, target :: sources => (target, sources.reverse)
      | none, [] => ("", [])
    needingOperand tool "missing file operand" o.operands do
      forOperands sources fun source => do
        match files.locate (toText source) with
        | .error fault =>
          if o.has 's' then return 0 else cannot tool "failed to access" source fault
        | .ok (_, node) =>
          if node.isDirectory && !o.has 's' then
            return ← failing 1 tool
              (shownName source ++ ": hard link not allowed for directory")
          let path := if files.isDirectory (toText target) then below target (lastPart source)
            else target
          let kind := if o.has 's' then "symbolic link" else "hard link"
          match files.locateEntry (toText path) with
          | .ok (above, some part) =>
            if files.contains (toText path) && !o.has 'f' then
              cannot tool ("failed to create " ++ kind) path .alreadyThere
            else
              putAt (above ++ [part]) node
              return 0
          | .ok (_, none) => cannot tool ("failed to create " ++ kind) path .alreadyThere
          | .error fault => cannot tool ("failed to create " ++ kind) path fault

/-- Gives files another size. -/
def truncateTool (tool : String) (arguments : List String) : Run Nat := do
  let table := OptionTable.ofText "cos:r:" [("no-create", 'c'), ("size", 's'), ("reference", 'r')]
  withOptions tool 1 table arguments fun o => do
    match o.value? 's' with
    | none =>
      complainOfUsage tool "you must specify either '--size' or '--reference'"
      return 1
    | some text =>
      let sign := text.toList.head?.filter ['+', '-', '<', '>', '/', '%'].contains
      let digits := if sign.isSome then String.ofList text.toList.tail else text
      match countOf lengthUnits digits with
      | .count n =>
        needingOperand tool "missing file operand" o.operands do
          forOperands o.operands fun path => do
            let old := ((← get).files.read (toText path)).toOption
            if old.isNone && o.has 'c' then return 0
            let content := old.getD .empty
            let size := match sign with
              | some '+' => content.size + n
              | some '-' => content.size - n
              | some '<' => min content.size n
              | some '>' => max content.size n
              | _ => n
            let gap : ByteArray := ⟨Array.replicate (size - content.size) 0⟩
            match ← tryFiles fun f => f.write (toText path) (content.extract 0 size ++ gap) with
            | none => return 0
            | some fault =>
              complain (tool ++ ": cannot open " ++ shellQuoted path ++ " for writing: "
                ++ fault.text)
              return 1
      | _ => failing 1 tool ("Invalid number: " ++ quoted text)

end LayerNet.Shell
