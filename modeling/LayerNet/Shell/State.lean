import LayerNet.Shell.Syntax
import LayerNet.Decimal.Reader
import LayerNet.Storage.FileSystem

/-!
# The state of a shell

A shell sees bytes, not characters: a text in it is a string whose characters are all below 256,
one for each byte.  Descriptors lead to channels, which several descriptors may share.  Of an input
only a first part may be known; what would need the rest is then given up and tried again with more.

Main definitions:

- `fromText`, `toText`: texts as a shell sees them, and back.
- `Channel`: what can be read and written.
- `Process`: what belongs to one shell.
- `State`: the shell that runs, the files and the channels.
- `Run`: steps of a shell.
-/

namespace LayerNet.Shell

/-! ## Bytes as characters -/

/-- The characters of some bytes. -/
def charsOf (bytes : List UInt8) : List Char :=
  bytes.map fun b => Char.ofNat b.toNat

/-- The string of some bytes, a character for each. -/
def ofBytes (bytes : List UInt8) : String :=
  String.ofList (charsOf bytes)

/-- The bytes of characters. -/
def bytesOf (chars : List Char) : List UInt8 :=
  chars.map fun c => c.toNat.toUInt8

/-- The bytes of a string. -/
def toBytes (s : String) : List UInt8 :=
  bytesOf s.toList

/-- A text as a shell sees it. -/
def fromText (s : String) : String :=
  ofBytes s.toUTF8.toList

/-- The text that a shell sees as a string. -/
def toText (s : String) : String :=
  Text.Utf8.lossy ⟨(toBytes s).toArray⟩

/-! ## Channels -/

/-- What an open file or device is open for. -/
structure Access where
  reads : Bool := false
  writes : Bool := false
  appends : Bool := false
deriving DecidableEq, Repr

/-- What can be read and written: an input, of which the rest may not be known; an output that is
kept in memory, of which no more than a limit may be wanted; a file at a position; or a device. -/
inductive Channel where
  | input (rest : List UInt8) (isWhole : Bool)
  | output (written : ByteArray) (limit : Option Nat)
  | file (place : List String) (position : Nat) (access : Access)
  | device (device : Device) (access : Access)

/-- Bytes that are there to be read; if they are not the whole, more would follow. -/
structure Available where
  bytes : List UInt8
  isWhole : Bool := true

/-! ## Shells -/

/-- A variable: its value, if it has one, whether programs are given it, and whether it is not
changed any more. -/
structure Variable where
  value? : Option String := none
  isExported : Bool := false
  isConstant : Bool := false
deriving DecidableEq, Repr

/-- What belongs to one shell. -/
structure Process where
  /-- the name that the shell was started by -/
  name : String
  /-- the number of the shell, which those inside of it have in common -/
  number : Nat
  /-- the number of the process that started the shell -/
  parent : Nat := 1
  /-- the number that a shell inside of another one has for itself alone -/
  own : Nat
  arguments : List String := []
  variablesByName : Table Variable := []
  functions : Table Command := []
  aliases : Table String := []
  /-- the letters of the options that are set -/
  options : List Char := []
  /-- what runs on signals; what runs when the shell ends has number zero -/
  traps : List (Nat × String) := []
  /-- the channels that descriptors lead to -/
  descriptors : List (Nat × Nat) := []
  /-- the status of the last command -/
  status : Nat := 0
  /-- the status of the last script whose output took its place in the command that runs -/
  substituted : Nat := 0
  /-- the line of the command that runs -/
  line : Nat := 0
  /-- the name of the command of the shell that runs -/
  command : Option String := none
  /-- how many loops are around the command that runs -/
  loops : Nat := 0
  /-- how many functions run inside of each other -/
  depth : Nat := 0
  /-- what the variables of each function or command that runs were outside of it -/
  frames : List (List (String × Option Variable)) := []
  /-- whether the status of the command that runs is tested -/
  isTested : Bool := false
  /-- the number of the last shell in the background -/
  lastBackground : Option Nat := none
  /-- the bits that files are made without -/
  mask : Nat := 18
  /-- which argument is looked at next for options, and how many letters of it were passed -/
  optionIndex : Nat := 1
  optionPlace : Nat := 0
  /-- the paths that commands were found at -/
  found : List (String × String) := []

/-- How a process has ended. -/
inductive JobEnd where
  | exited (status : Nat)
  | killed (signal : Nat)
deriving DecidableEq, Repr

/-- The status that an end gives. -/
def JobEnd.status : JobEnd → Nat
  | exited status => status
  | killed signal => 128 + signal

/-- A shell in the background, which is carried out when it is waited for. -/
structure Job where
  /-- the number that the shell which started it knows it by -/
  number : Nat
  /-- its number as a process -/
  process : Nat
  /-- the shell that started it -/
  starter : Nat
  script : Command
  /-- the shell as it began -/
  shell : Process
  directory : List String
  startedAt : Nat
  /-- how it has ended, once it has -/
  outcome? : Option JobEnd := none

/-- The state of the shell that runs, of the files and of the channels. -/
structure State extends Process where
  files : FileSystem
  channels : Array Channel := #[]
  /-- the bodies of the documents that were read -/
  documents : Array Word := #[]
  jobs : List Job := []
  /-- signals that were sent, with the processes that they are for -/
  sent : List (Nat × Nat) := []
  /-- the number of the next process -/
  nextProcess : Nat := 4243
  /-- how many milliseconds have been slept, and how many may be -/
  clock : Nat := 0
  deadline : Option Nat := none
  /-- how much is read of what has no end -/
  endless : Nat := 4096
  /-- whether more of an input is needed than is known -/
  isStarved : Bool := false
  /-- whether more was written than is wanted -/
  hasOverflown : Bool := false
  /-- why the last write failed -/
  writeFault : Option FileFault := none

/-- Steps of a shell. -/
abbrev Run := StateM State

/-- The number of the first shell. -/
def firstNumber : Nat := 4242

/-! ## Descriptors -/

/-- The entry of a number in a list of pairs. -/
def atNumber? {α : Type} (n : Nat) (entries : List (Nat × α)) : Option α :=
  (entries.find? fun e => e.1 == n).map Prod.snd

/-- The number of the channel that a descriptor leads to, and the channel. -/
def State.channel? (s : State) (descriptor : Nat) : Option (Nat × Channel) :=
  (atNumber? descriptor s.descriptors).bind fun i => s.channels[i]?.map fun c => (i, c)

/-- Leads a descriptor to a channel. -/
def State.redirected (s : State) (descriptor channel : Nat) : State :=
  { s with descriptors := (descriptor, channel) :: s.descriptors.filter fun e => e.1 != descriptor }

/-- Leads a descriptor to a new channel. -/
def leadTo (descriptor : Nat) (channel : Channel) : Run Unit :=
  modify fun s =>
    { s with channels := s.channels.push channel }.redirected descriptor s.channels.size

/-- Closes a descriptor. -/
def closeDescriptor (descriptor : Nat) : Run Unit :=
  modify fun s => { s with descriptors := s.descriptors.filter fun e => e.1 != descriptor }

/-! ## Reading -/

/-- The bytes of a file from a position on. -/
def State.contentFrom (s : State) (place : List String) (position : Nat) : List UInt8 :=
  match s.files.node? place with
  | some (.file content _) => (content.extract position content.size).toList
  | _ => []

/-- What a descriptor gives to read; of what has no end it is as much as is wanted. -/
def State.available (s : State) (descriptor : Nat) (wanted : Nat) : Except FileFault Available :=
  match s.channel? descriptor with
  | some (_, .input rest isWhole) => .ok ⟨rest, isWhole⟩
  | some (_, .file place position access) =>
    if !access.reads then .error (.other "Bad file descriptor")
    else if (s.files.node? place).any Node.isDirectory then .error .isADirectory
    else .ok ⟨s.contentFrom place position, true⟩
  | some (_, .device device access) =>
    if !access.reads then .error (.other "Bad file descriptor")
    else if device = .null then .ok ⟨[], true⟩
    else .ok ⟨List.replicate wanted 0, false⟩
  | _ => .error (.other "Bad file descriptor")

/-- Passes over bytes that a descriptor gives to read. -/
def passOver (descriptor count : Nat) : Run Unit :=
  modify fun s =>
    match s.channel? descriptor with
    | some (i, .input rest isWhole) =>
      { s with channels := s.channels.set! i (.input (rest.drop count) isWhole) }
    | some (i, .file place position access) =>
      { s with channels := s.channels.set! i (.file place (position + count) access) }
    | _ => s

/-- Notes that more of an input is needed than is known. -/
def starve : Run Unit :=
  modify fun s => { s with isStarved := true }

/-! ## Writing -/

/-- A content with bytes written over it from a position on. -/
def overwrite (content : ByteArray) (position : Nat) (bytes : ByteArray) : ByteArray :=
  if position = content.size then content ++ bytes
  else
    let gap : ByteArray := ⟨Array.replicate (position - content.size) 0⟩
    content.extract 0 position ++ gap ++ bytes
      ++ content.extract (position + bytes.size) content.size

/-- What a write to a descriptor comes to: bytes that are kept, a change of a file, nothing, or a
fault. -/
inductive WriteTarget where
  | kept (channel : Nat)
  | file (channel : Nat) (place : List String) (position : Nat) (appends : Bool)
  | nowhere
  | fault (fault : FileFault)

/-- What a write to a descriptor comes to. -/
def State.writeTarget (s : State) (descriptor : Nat) : WriteTarget :=
  match s.channel? descriptor with
  | some (i, .output _ _) => .kept i
  | some (i, .file place position access) =>
    if access.writes then .file i place position access.appends
    else .fault (.other "Bad file descriptor")
  | some (_, .device device access) =>
    if !access.writes then .fault (.other "Bad file descriptor")
    else if device = .full then .fault .noSpace
    else .nowhere
  | _ => .fault (.other "Bad file descriptor")

/-- Adds bytes to those that a channel keeps. -/
def Channel.add (bytes : ByteArray) : Channel → Channel
  | output written limit => output (written ++ bytes) limit
  | channel => channel

/-- Whether a channel keeps more bytes than are wanted. -/
def Channel.isOver : Channel → Bool
  | output written (some limit) => limit < written.size
  | _ => false

/-- Writes bytes to a descriptor. -/
def writeBytes (descriptor : Nat) (bytes : List UInt8) : Run Unit :=
  modify fun s =>
    match s.writeTarget descriptor with
    | .kept i =>
      let channels := s.channels.modify i (Channel.add ⟨bytes.toArray⟩)
      let isOver := (channels[i]?.map Channel.isOver).getD false
      { s with channels, hasOverflown := s.hasOverflown || isOver }
    | .file i place position appends =>
      match s.files.node? place with
      | some (.file content executable) =>
        let start := if appends then content.size else position
        let node := Node.file (overwrite content start ⟨bytes.toArray⟩) executable
        let moved (channel : Channel) : Channel :=
          match channel with
          | .file place _ access => .file place (start + bytes.length) access
          | channel => channel
        { s with
          files := s.files.putNode place node
          channels := s.channels.modify i moved }
      | _ => s
    | .nowhere => s
    | .fault fault => { s with writeFault := some fault }

/-- Writes a string to the standard output. -/
def out (text : String) : Run Unit :=
  writeBytes 1 (toBytes text)

/-- Writes characters to the standard output. -/
def outChars (chars : List Char) : Run Unit :=
  writeBytes 1 (bytesOf chars)

/-- Writes a line to the standard error; that it cannot be written says nothing. -/
def complain (text : String) : Run Unit := do
  let before := (← get).writeFault
  writeBytes 2 (toBytes (text ++ "\n"))
  modify fun s => { s with writeFault := before }

/-- Writes a line to the standard error that begins with the place of the command. -/
def complainHere (text : String) : Run Unit := do
  let s ← get
  let command := match s.command with
    | some name => name ++ ": "
    | none => ""
  complain (s.name ++ ": " ++ Decimal.natText s.line ++ ": " ++ command ++ text)

/-! ## Files -/

/-- Tries a change of the files; a failure leaves them as they are. -/
def tryFiles (change : FileSystem → Except FileFault FileSystem) : Run (Option FileFault) := do
  match change (← get).files with
  | .ok files =>
    modify fun s => { s with files }
    return none
  | .error fault => return some fault

/-- The descriptor that a path such as `/dev/stdin` or `/dev/fd/3` stands for. -/
def descriptorOfPath? (path : String) : Option Nat :=
  match path with
  | "/dev/stdin" => some 0
  | "/dev/stdout" => some 1
  | "/dev/stderr" => some 2
  | path =>
    let digits? := ["/dev/fd/", "/proc/self/fd/"].findSome? fun front =>
      if path.startsWith front then some (path.toList.drop front.length) else none
    match digits? with
    | some [d] => if d.isDigit then some (d.toNat - 48) else none
    | _ => none

/-- The channel for reading a file. -/
def openForReading (path : String) : Run (Except FileFault Channel) := do
  match descriptorOfPath? path with
  | some d =>
    match (← get).channel? d with
    | some (_, .file place _ _) => return .ok (.file place 0 { reads := true })
    | some (_, channel) => return .ok channel
    | none => return .error .notFound
  | none =>
    match (← get).files.locate (toText path) with
    | .error fault => return .error fault
    | .ok (_, .device device) => return .ok (.device device { reads := true })
    | .ok (place, _) => return .ok (.file place 0 { reads := true })

/-- The channel for writing a file, which is made if it is missing. -/
def openForWriting (path : String) (mode : OutputMode) : Run (Except FileFault Channel) := do
  let files := (← get).files
  let access : Access :=
    { writes := true, appends := mode = .append, reads := mode = .update }
  match files.locateEntry (toText path) with
  | .error fault => return .error fault
  | .ok (_, none) => return .error .isADirectory
  | .ok (place, some part) =>
    let place := place ++ [part]
    match files.node? place with
    | some (.device device) => return .ok (.device device access)
    | some (.directory _) => return .error .isADirectory
    | some (.file content executable) =>
      if Path.endsWithSlash path then return .error .notADirectory
      let kept := if mode = .append || mode = .update then content else .empty
      modify fun s => { s with files := files.putNode place (.file kept executable) }
      return .ok (.file place 0 access)
    | none =>
      if Path.endsWithSlash path then return .error .isADirectory
      modify fun s => { s with files := files.putNode place (.file .empty false) }
      return .ok (.file place 0 access)

/-! ## Variables -/

namespace Process

/-- A variable. -/
def named? (p : Process) (name : String) : Option Variable :=
  Table.find? name p.variablesByName

/-- The value of a variable. -/
def valueOf? (p : Process) (name : String) : Option String :=
  (p.named? name).bind Variable.value?

/-- The values of all variables. -/
def values (p : Process) : Table String :=
  p.variablesByName.filterMap fun v => v.2.value?.map fun value => (v.1, value)

/-- The values of the variables that programs are given. -/
def environment (p : Process) : Table String :=
  p.variablesByName.filterMap fun v =>
    if v.2.isExported then v.2.value?.map fun value => (v.1, value) else none

/-- Changes a variable, which is made if it is missing. -/
def changeVariable (p : Process) (name : String) (change : Variable → Variable) : Process :=
  { p with
    variablesByName :=
      Table.insert name (change ((p.named? name).getD {})) p.variablesByName }

/-- Gives a variable a value. -/
def withValue (p : Process) (name value : String) : Process :=
  let p := p.changeVariable name fun v =>
    { v with value? := some value, isExported := v.isExported || p.options.contains 'a' }
  if name = "OPTIND" then
    let index := Decimal.natOfDigits (value.toList.takeWhile Char.isDigit)
    { p with optionIndex := max 1 index, optionPlace := 0 }
  else p

/-- Takes a variable away. -/
def withoutVariable (p : Process) (name : String) : Process :=
  { p with variablesByName := p.variablesByName.filter fun v => v.1 != name }

/-- The characters that separate fields. -/
def separators (p : Process) : List Char :=
  ((p.valueOf? "IFS").getD " \t\n").toList

end Process

/-- Changes the shell that runs. -/
def changeProcess (change : Process → Process) : Run Unit :=
  modify fun s => { s with toProcess := change s.toProcess }

/-- Gives a variable a value. -/
def setVariable (name value : String) : Run Unit :=
  changeProcess fun p => p.withValue name value

/-- Takes a variable away. -/
def unsetVariable (name : String) : Run Unit :=
  changeProcess fun p => p.withoutVariable name

end LayerNet.Shell
