import LayerNet.Shell.Tools.Editing.Script
import LayerNet.Shell.Tools.Input

/-!
# The state of the stream editor

The editor goes along the lines of its inputs, which it opens when it comes to them.  It holds one
line, and another text aside.

Main definitions:

- `Editor`: the state.
- `Editing`: steps of the editor.
- `takeLine`, `isLastLine`: its inputs.
- `putLine`: its outputs.
-/

namespace LayerNet.Shell

/-- Whether the lines of a range are met: not yet, up to the end of the range, or up to a line. -/
inductive RangeState where
  | inactive
  | open
  | upTo (line : Nat)
deriving DecidableEq, Repr

/-- What is written behind a line: a text, or a file. -/
inductive Appended where
  | text (cs : List Char)
  | file (path : String)

/-- Where the editor writes: to the standard output, to the standard error, to the file that is
edited, or to another file. -/
inductive EditTarget where
  | output
  | errors
  | edited
  | file (path : String)
deriving DecidableEq, Repr

/-- How the editor is called. -/
structure EditOptions where
  tool : String
  isQuiet : Bool := false
  /-- whether each input is treated on its own -/
  isSeparate : Bool := false
  /-- whether files are edited in their place, and the ending of the copies that are kept -/
  inPlace : Option String := none
  mark : UInt8 := 10
  width : Nat := 70

/-- The state of the editor. -/
structure Editor where
  script : EditScript
  options : EditOptions
  /-- inputs that are not opened yet -/
  waiting : List String
  /-- the lines of the input that is open, and whether all of them are known -/
  lines : List Line := []
  isWhole : Bool := true
  /-- the input that is open -/
  source : Option String := none
  number : Nat := 0
  text : List Char := []
  isClosed : Bool := true
  hold : List Char := []
  hasReplaced : Bool := false
  /-- what is written behind the line, in reverse -/
  appended : List Appended := []
  ranges : Array RangeState
  lastRegex : Option RegexProgram := none
  /-- the channels of files that are written -/
  channels : Table Nat := []
  /-- targets of which the last line is not closed -/
  unclosed : List EditTarget := []
  /-- what was written of the file that is edited, in reverse -/
  edited : List (List Char) := []
  /-- the lines that are left of files that are read line by line -/
  readers : Table (List Line) := []
  status : Nat := 0

/-- Steps of the editor. -/
abbrev Editing := StateT Editor Run

/-! ## Outputs -/

/-- Writes characters to a target. -/
def putRaw (target : EditTarget) (cs : List Char) : Editing Unit := do
  match target with
  | .output => (outChars cs : Run Unit)
  | .errors => (writeBytes 2 (bytesOf cs) : Run Unit)
  | .edited => modify fun e => { e with edited := cs :: e.edited }
  | .file path =>
    match Table.find? path (← get).channels with
    | none => return ()
    | some channel =>
      let step : Run Unit := do
        let before := (← get).descriptors
        modify fun s => s.redirected 9 channel
        writeBytes 9 (bytesOf cs)
        modify fun s => { s with descriptors := before }
      step

/-- The sign behind lines. -/
def EditOptions.lineEnd (o : EditOptions) : Char :=
  Char.ofNat o.mark.toNat

/-- Closes the last line of a target if it is not closed. -/
def closeLine (target : EditTarget) : Editing Unit := do
  let e ← get
  if e.unclosed.contains target then
    modify fun e => { e with unclosed := e.unclosed.filter (· ≠ target) }
    putRaw target [e.options.lineEnd]

/-- Writes a line to a target, closed or not. -/
def putLine (target : EditTarget) (text : List Char) (closed : Bool) : Editing Unit := do
  closeLine target
  if closed then putRaw target (text ++ [(← get).options.lineEnd])
  else
    putRaw target text
    modify fun e => { e with unclosed := target :: e.unclosed }

/-- Writes a text to a target that stands between lines. -/
def putText (target : EditTarget) (text : List Char) : Editing Unit := do
  closeLine target
  unless text.isEmpty do putRaw target text

/-- Where lines are written. -/
def Editor.target (e : Editor) : EditTarget :=
  if e.options.inPlace.isSome then .edited else .output

/-- The target that a path means. -/
def targetOf (path : String) : EditTarget :=
  match path with
  | "/dev/stdout" => .output
  | "/dev/stderr" => .errors
  | path => .file path

/-! ## Inputs -/

/-- The path of the copy of a file that is edited. -/
def copyPath (path ending : String) : String :=
  if ending.contains '*' then
    let parts := (path.toList.splitOn '/')
    let name := String.ofList (parts.getLastD [])
    let front := path.toList.take (path.length - name.length)
    let named := Text.replaceAll "*" name ending
    if ending.contains '/' then named else String.ofList front ++ named
  else path ++ ending

/-- Puts what was written of the file that is edited in its place. -/
def finishEdited : Editing Unit := do
  let e ← get
  match e.options.inPlace, e.source with
  | some ending, some path =>
    let content : ByteArray := ⟨(bytesOf e.edited.reverse.flatten).toArray⟩
    let step : Run Unit := do
      unless ending.isEmpty do
        let kept := (← get).files.read (toText path)
        if let .ok kept := kept then
          let _ ← tryFiles fun files => files.write (toText (copyPath path ending)) kept
      let _ ← tryFiles fun files => files.write (toText path) content
    step
    set { e with edited := [], unclosed := e.unclosed.filter (· ≠ EditTarget.edited),
                 source := none }
  | _, _ => return ()

/-- What a command that ends the editor leaves: a failure that it has said, with its status. -/
inductive EditStop where
  | failed (status : Nat)

/-- Opens the next input; tells whether there was one, or why the editor gives up. -/
def openNext : Nat → Editing (Except EditStop Bool)
  | 0 => return .ok false
  | fuel + 1 => do
    finishEdited
    let e ← get
    match e.waiting with
    | [] => return .ok false
    | path :: waiting =>
      set { e with waiting }
      let tool := e.options.tool
      let isStandard := path = "-" && e.options.inPlace.isNone
      let wanted ← (endlessSize : Run Nat)
      let found ← (if isStandard then readStandard wanted else readPath path wanted : Run _)
      match found with
      | .ok a =>
        let input : Input := ⟨path, a.bytes, a.isWhole⟩
        modify fun e =>
          { e with
            lines := input.linesAt e.options.mark
            isWhole := a.isWhole
            source := some path }
        if e.options.isSeparate then
          modify fun e =>
            { e with number := 0, hold := [], ranges := e.ranges.map fun _ => .inactive }
          closeLine .output
        return .ok true
      | .error .isADirectory =>
        if e.options.inPlace.isSome then
          complain (tool ++ ": couldn't edit " ++ path ++ ": not a regular file")
          modify fun e => { e with status := 4 }
          openNext fuel
        else
          complain (tool ++ ": read error on " ++ path ++ ": Is a directory")
          return .error (.failed 4)
      | .error fault =>
        complain (tool ++ ": can't read " ++ path ++ ": " ++ fault.text)
        modify fun e => { e with status := max 2 e.status }
        openNext fuel

/-- Whether one of some inputs that are not opened yet has something to read. -/
def State.anyFilled (s : State) (paths : List String) : Bool :=
  paths.any fun path =>
    if path = "-" then
      match s.available 0 1 with
      | .ok a => !a.bytes.isEmpty
      | .error _ => false
    else
      match s.files.locate (toText path) with
      | .ok (_, .file content _) => content.size ≠ 0
      | _ => false

/-- Whether the line that is held is the last one. -/
def isLastLine : Editing Bool := do
  let e ← get
  if !e.lines.isEmpty || !e.isWhole then return false
  else if e.options.isSeparate then return true
  else
    let s ← (get : Run State)
    return !s.anyFilled e.waiting

/-- Takes the next line, which is added to the one that is held if `adds`; tells whether there was
one, or why the editor gives up. -/
def takeLine (adds : Bool) : Nat → Editing (Except EditStop Bool)
  | 0 => return .ok false
  | fuel + 1 => do
    let e ← get
    match e.lines with
    | line :: lines =>
      let isLast := lines.isEmpty && e.isWhole
        && (e.waiting.isEmpty || e.options.isSeparate)
      let text := if adds then e.text ++ e.options.lineEnd :: line.text else line.text
      set { e with
        lines, text
        isClosed := line.isClosed || !isLast
        number := e.number + 1 }
      return .ok true
    | [] =>
      if !e.isWhole then
        (starve : Run Unit)
        return .ok false
      match ← openNext (e.waiting.length + 1) with
      | .ok true => takeLine adds fuel
      | other => return other

/-! ## Behind a line -/

/-- Writes what is to be written behind the line. -/
def flushAppended : Editing Unit := do
  let e ← get
  unless e.appended.isEmpty do
    set { e with appended := [] }
    for item in e.appended.reverse do
      match item with
      | .text cs => putText e.target cs
      | .file path =>
        let found ← (if path = "/dev/stdin" then readStandard 0 else readPath path 0 : Run _)
        if let .ok a := found then putText e.target (charsOf a.bytes)

/-- Writes the line that is held, unless lines are not written on their own. -/
def putHeld : Editing Unit := do
  let e ← get
  unless e.options.isQuiet do putLine e.target e.text e.isClosed

end LayerNet.Shell
