import LayerNet.Shell.Lookup
import LayerNet.Shell.Tools.Files

/-!
# Tools for paths

Main definitions:

- `basenameTool`, `dirnameTool`: parts of paths.
- `realpathTool`, `readlinkTool`: where paths lead.
- `whichTool`: where programs are found.
- `mktempTool`: a name that is not taken.
-/

namespace LayerNet.Shell

/-- A name without an ending, unless it is nothing but that. -/
def withoutEnding (ending name : String) : String :=
  if name ≠ ending && name.endsWith ending then
    String.ofList (name.toList.take (name.length - ending.length))
  else name

/-- Writes the last parts of paths, without an ending if one is given. -/
def basenameTool (tool : String) (arguments : List String) : Run Nat := do
  let table : OptionTable :=
    { OptionTable.ofText "as:z" [("multiple", 'a'), ("suffix", 's'), ("zero", 'z')] with
      stopsAtOperand := true }
  withOptions tool 1 table arguments fun o => do
    let back := if o.has 'z' then "\x00" else "\n"
    needingOperand tool "missing operand" o.operands do
      if o.hasAny ['a', 's'] then
        let ending := (o.value? 's').getD ""
        for path in o.operands do out (withoutEnding ending (lastPart path) ++ back)
        return 0
      else
        match o.operands with
        | _ :: _ :: extra :: _ =>
          complainOfUsage tool ("extra operand " ++ quoted extra)
          return 1
        | path :: rest =>
          let name := lastPart path
          out ((if name = "/" then name else withoutEnding (rest.headD "") name) ++ back)
          return 0
        | [] => return 1

/-- A path without its last part. -/
def directoryPart (path : String) : String :=
  let cs := path.toList.reverse
  let isSlash (c : Char) : Bool := c = '/'
  let kept := ((cs.dropWhile isSlash).dropWhile fun c => !isSlash c).dropWhile isSlash
  if !kept.isEmpty then String.ofList kept.reverse
  else if cs.getLast? = some '/' then "/"
  else "."

/-- Writes paths without their last parts. -/
def dirnameTool (tool : String) (arguments : List String) : Run Nat := do
  withOptions tool 1 (OptionTable.ofText "z" [("zero", 'z')]) arguments fun o => do
    needingOperand tool "missing operand" o.operands do
      for path in o.operands do
        out (directoryPart path ++ (if o.has 'z' then "\x00" else "\n"))
      return 0

/-- The place that a path leads to from the root, as a path; the last part may be missing. -/
def wholePath (files : FileSystem) (mustBe : Bool) (path : String) : Except FileFault String :=
  let shown (place : List String) : String := "/" ++ "/".intercalate place
  match files.locate (toText path) with
  | .ok (place, _) => .ok (fromText (shown place))
  | .error fault =>
    if mustBe then .error fault
    else
      match files.locateEntry (toText path) with
      | .ok (above, some part) => .ok (fromText (shown (above ++ [part])))
      | .ok (above, none) => .ok (fromText (shown above))
      | .error fault => .error fault

/-- Writes where paths lead. -/
def realpathTool (tool : String) (arguments : List String) : Run Nat := do
  let table := OptionTable.ofText "eLmPqsz"
    [("canonicalize-existing", 'e'), ("canonicalize-missing", 'm'), ("quiet", 'q'), ("zero", 'z')]
  withOptions tool 1 table arguments fun o => do
    needingOperand tool "missing operand" o.operands do
      forOperands o.operands fun path => do
        match wholePath (← get).files (o.has 'e') path with
        | .ok found =>
          out (found ++ (if o.has 'z' then "\x00" else "\n"))
          return 0
        | .error fault =>
          if o.has 'q' then return 1
          else failing 1 tool (shownName path ++ ": " ++ fault.text)

/-- Writes where paths lead, if they are followed to their end; no path is a link. -/
def readlinkTool (tool : String) (arguments : List String) : Run Nat := do
  let table := OptionTable.ofText "efmnqsvz"
    [("canonicalize", 'f'), ("canonicalize-existing", 'e'), ("canonicalize-missing", 'm'),
      ("no-newline", 'n'), ("quiet", 'q'), ("silent", 's'), ("verbose", 'v'), ("zero", 'z')]
  withOptions tool 1 table arguments fun o => do
    needingOperand tool "missing operand" o.operands do
      forOperands o.operands fun path => do
        if !o.hasAny ['e', 'f', 'm'] then return 1
        match wholePath (← get).files (o.has 'e') path with
        | .ok found =>
          out (found ++ (if o.has 'n' then "" else if o.has 'z' then "\x00" else "\n"))
          return 0
        | .error _ => return 1

/-- Writes where programs are found. -/
def whichTool (_ : String) (arguments : List String) : Run Nat := do
  let every := arguments.contains "-a"
  let names := arguments.filter (· ≠ "-a")
  if names.isEmpty then return 1
  forOperands names fun name => do
    let s ← get
    let starts (path : String) : Bool := (launchPath s.files 5 path []).isOk
    let paths := if name.contains '/' then [name] else candidatePaths (s.valueOf? "PATH") name
    match paths.filter starts with
    | [] => return 1
    | first :: others =>
      for path in if every then first :: others else [first] do out (path ++ "\n")
      return 0

/-- Makes a file or a directory with a name that is not taken, and writes it. -/
def mktempTool (tool : String) (arguments : List String) : Run Nat := do
  let table := OptionTable.ofText "dp:qtu"
    [("directory", 'd'), ("tmpdir", 'p'), ("quiet", 'q'), ("dry-run", 'u')]
  withOptions tool 1 table arguments fun o => do
    let template := o.operands.headD "tmp.XXXXXXXXXX"
    let marks := template.toList.reverse.takeWhile (· = 'X')
    if marks.length < 3 then
      return ← failing 1 tool ("too few X's in template " ++ quoted template)
    let front := String.ofList (template.toList.take (template.length - marks.length))
    let inTemporary := o.operands.isEmpty || o.hasAny ['p', 't']
    let s ← get
    let directory := ((o.value? 'p').or (s.valueOf? "TMPDIR")).getD "/tmp"
    let base := if inTemporary then below directory front else front
    let files := s.files
    let named (n : Nat) : String :=
      let digits := Decimal.digits n
      base ++ String.ofList (List.replicate (marks.length - digits.length) 'A' ++ digits)
    let path := ((List.range 1000).map named).find? fun p => !files.contains (toText p)
    let path := path.getD (named 0)
    if o.has 'u' then
      out (path ++ "\n")
      return 0
    let change (files : FileSystem) : Except FileFault FileSystem :=
      if o.has 'd' then files.makeDirectory (toText path) else files.write (toText path) .empty
    match ← tryFiles change with
    | none =>
      out (path ++ "\n")
      return 0
    | some fault =>
      let kind := if o.has 'd' then "directory" else "file"
      failing 1 tool ("failed to create " ++ kind ++ " via template " ++ quoted template ++ ": "
        ++ fault.text)

end LayerNet.Shell
