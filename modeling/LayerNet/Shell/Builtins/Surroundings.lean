import LayerNet.Shell.Builtins.Basic
import LayerNet.Shell.Format
import LayerNet.Shell.Modes
import LayerNet.Shell.Testing
import LayerNet.Storage.Path

/-!
# Commands for reading, writing and the current directory

Main definitions:

- `echo`, `printFormatted`: the commands that write their arguments.
- `readLine`: `read`.
- `changeDirectory`, `sayDirectory`: `cd` and `pwd`.
- `changeMask`: `umask`.
-/

namespace LayerNet.Shell

/-! ## Writing -/

/-- Writes arguments with blanks between them; `-n` in front leaves the line open. -/
def echo : Builtin := fun arguments => do
  let (closes, arguments) := match arguments with
    | "-n" :: rest => (false, rest)
    | arguments => (true, arguments)
  let (text, stops) := Escape.replaced (" ".intercalate arguments).toList
  outChars (if closes && !stops then text ++ ['\n'] else text)
  return 0

/-- Writes arguments in a format. -/
def printFormatted : Builtin := fun arguments => do
  let (_, operands) ← shellOptions "" arguments
  match operands with
  | [] => failHere "usage: printf format [arg ...]"
  | format :: rest =>
    let f := Formatted.ofArguments .shell format rest
    outChars f.text.reverse
    for message in f.messages do complainHere message
    if f.invalid then
      setStatus 2
      throw .failed
    return if f.fails then 1 else 0

/-! ## Reading -/

/-- A line that is read: its characters, protected ones marked, in reverse; how many bytes it takes;
and whether it is closed. -/
structure ReadLine where
  chars : List (Char × Bool) := []
  count : Nat := 0
  isClosed : Bool := false

/-- Reads a line, in which a backslash protects what follows unless it is taken as it is. -/
def readLineFrom (raw : Bool) (line : ReadLine) : List UInt8 → ReadLine
  | [] => line
  | b :: bytes =>
    let c := Char.ofNat b.toNat
    let counted := { line with count := line.count + 1 }
    if c = '\n' then { counted with isClosed := true }
    else if c = '\x00' then readLineFrom raw counted bytes
    else if c = '\\' && !raw then
      match bytes with
      | [] => counted
      | d :: bytes =>
        let counted := { line with count := line.count + 2 }
        if d = 10 then readLineFrom raw counted bytes
        else
          let d := Char.ofNat d.toNat
          readLineFrom raw { counted with chars := (d, true) :: line.chars } bytes
    else readLineFrom raw { counted with chars := (c, false) :: line.chars } bytes

/-- The segments of a line: those of protected characters are not split. -/
def segmentsOfLine (chars : List (Char × Bool)) : List Segment :=
  chars.foldr
    (fun (c, isProtected) segments =>
      let item : Item := .glyph ⟨c, isProtected⟩
      let splitting : Splitting := if isProtected then .none else .separators
      match segments with
      | segment :: rest =>
        if segment.splitting = splitting then ⟨splitting, item :: segment.items⟩ :: rest
        else ⟨splitting, [item]⟩ :: segments
      | [] => [⟨splitting, [item]⟩])
    []

/-- Gives variables the values that there are, and those behind them no characters. -/
def assignEach : List String → List String → Step Unit
  | [], _ => return ()
  | name :: names, values => do
    checkName name
    assign name (values.head?.getD "")
    assignEach names values.tail

/-- Reads one line into variables. -/
def readLine : Builtin := fun arguments => do
  let (given, names) ← shellOptions "p:r" arguments
  if names.isEmpty then failHere "arg count"
  let s ← get
  match s.available 0 s.endless with
  | .error _ =>
    assignEach names []
    return 1
  | .ok available =>
    let line := readLineFrom (isGiven given 'r') {} available.bytes
    passOver 0 line.count
    if !line.isClosed && !available.isWhole then
      starve
      throw .suspended
    let fields := breakUp s.separators (some names.length) (segmentsOfLine line.chars.reverse)
    assignEach names (fields.map fun field => String.ofList (Glyph.text field))
    return if line.isClosed then 0 else 1

/-! ## The current directory -/

/-- Goes to another directory, whose path is written if that is wanted. -/
def enterDirectory (place : List String) (tells : Bool) : Run Unit := do
  let before := (← get).valueOf? "PWD"
  let path := fromText (Path.ofPlace place)
  let mark (v : Variable) : Variable := { v with isExported := true }
  setVariable "OLDPWD" (before.getD (fromText (Path.ofPlace (← get).files.current)))
  setVariable "PWD" path
  changeProcess fun p => (p.changeVariable "OLDPWD" mark).changeVariable "PWD" mark
  modify fun s => { s with files := { s.files with current := place } }
  if tells then out (path ++ "\n")

/-- Goes to another directory, which is also looked for in the directories of a search path. -/
def changeDirectory : Builtin := fun arguments => do
  let (_, operands) ← shellOptions "LP" arguments
  let s ← get
  let (target, tells) : String × Bool := match operands with
    | "-" :: _ => ((s.valueOf? "OLDPWD").getD "", true)
    | path :: _ => (path, false)
    | [] => ((s.valueOf? "HOME").getD "", false)
  let target := if target.isEmpty then "." else target
  let parts := Path.parts (toText target)
  let isFixed := Path.isAbsolute (toText target) || ["", ".", ".."].contains (parts.headD "")
  let searched := match s.valueOf? "CDPATH" with
    | some searched => if isFixed then [""] else Text.splitAtChar ':' searched ++ [""]
    | none => [""]
  let paths := searched.map fun d =>
    if d.isEmpty then (target, tells) else (d ++ "/" ++ target, true)
  let found := paths.findSome? fun (path, tells) =>
    match s.files.locate (toText path) with
    | .ok (place, .directory _) => some (place, tells)
    | _ => none
  match found with
  | some (place, tells) =>
    enterDirectory place tells
    return 0
  | none =>
    failHere ("can't cd to " ++ target)

/-- Writes the path of the current directory. -/
def sayDirectory : Builtin := fun arguments => do
  let _ ← shellOptions "LP" arguments
  out (fromText (Path.ofPlace (← get).files.current) ++ "\n")
  return 0

/-! ## The bits that files are made without -/

/-- Three bits as letters. -/
def bitLetters (bits : Nat) : String :=
  (if bits &&& 4 = 0 then "" else "r") ++ (if bits &&& 2 = 0 then "" else "w")
    ++ (if bits &&& 1 = 0 then "" else "x")

/-- The bits that a mask leaves, as letters for each class of users. -/
def maskText (mask : Nat) : String :=
  let kept (shift : Nat) : String := bitLetters (7 - mask >>> shift % 8)
  "u=" ++ kept 6 ++ ",g=" ++ kept 3 ++ ",o=" ++ kept 0

/-- Says or changes the bits that files are made without. -/
def changeMask : Builtin := fun arguments => do
  let (given, operands) ← shellOptions "S" arguments
  let mask := (← get).mask
  match operands with
  | [] =>
    let digits := Nat.toDigits 8 mask
    let octal := String.ofList (List.replicate (4 - digits.length) '0' ++ digits)
    out ((if isGiven given 'S' then maskText mask else octal) ++ "\n")
  | text :: _ =>
    if (text.toList.head?.map Char.isDigit).getD false then
      if !text.toList.all Escape.isOctal then failHere ("Illegal number: " ++ text)
      let n := text.toList.foldl (fun n c => 8 * n + (c.toNat - 48)) 0
      changeProcess fun p => { p with mask := n % 512 }
    else
      match changeModes (511 - mask % 512) text with
      | some mode => changeProcess fun p => { p with mask := 511 - mode }
      | none => failHere ("Illegal mode: " ++ text)
  return 0

/-- Says how long the shell and its programs have run. -/
def sayTimes : Builtin := fun _ => do
  let zero := "0m0.000000s 0m0.000000s\n"
  out (zero ++ zero)
  return 0

/-- Says how much of something may be used. -/
def sayLimit : Builtin := fun arguments => do
  let (_, operands) ← shellOptions "HSatfdsmcnpvlwr" arguments
  if operands.isEmpty then out "unlimited\n"
  return 0

end LayerNet.Shell
