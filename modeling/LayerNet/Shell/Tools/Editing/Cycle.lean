import LayerNet.Shell.Tools.Editing.Editor
import LayerNet.Shell.Tools.Options

/-!
# The stream editor

Each line goes through the commands of the script, is written, and makes way for the next one.

Main definitions:

- `isAddressed`: whether a command is for the line that is held.
- `replaceMatches`: replacements in a line.
- `carryOutFrom`: carries out commands.
- `sedTool`: the tool.
-/

namespace LayerNet.Shell

/-- How the commands leave a line: it is written, or not; the commands begin again without a new
line; the editor is to end, with the line written or not; it gives up; or it lacks an input. -/
inductive LineEnding where
  | written
  | dropped
  | again
  | quit (status : Nat) (prints : Bool)
  | failed (status : Nat)
  | starved
deriving DecidableEq, Repr

/-- Steps of the editor that may end what is done with a line. -/
abbrev LineStep := ExceptT LineEnding Editing

/-! ## Addresses -/

/-- The expression that is meant: the one that is given, or the one that was used last. -/
def usedRegex (r : Option RegexProgram) : LineStep RegexProgram := do
  match r with
  | some r =>
    modify fun e => { e with lastRegex := some r }
    return r
  | none =>
    let e ← get
    match e.lastRegex with
    | some r => return r
    | none =>
      let text := e.options.tool ++ ": -e expression #1, char 0: no previous regular expression"
      (complain text : Run Unit)
      throw (.failed 1)

/-- Whether an address is that of the line that is held. -/
def meetsAddress (address : EditAddress) : LineStep Bool := do
  let e ← get
  match address with
  | .line n => return e.number = n
  | .every first step =>
    return first ≤ e.number && (e.number - first) % step = 0
  | .last => return ← isLastLine
  | .matching r =>
    let r ← usedRegex r
    return (r.search (← get).text.toArray 0).isSome
  | .more _ | .multiple _ => return false

/-- Sets whether the range of a command is open. -/
def setRange (place : Nat) (state : RangeState) : LineStep Unit :=
  modify fun e => { e with ranges := e.ranges.set! place state }

/-- Opens the range of a command at the line that is held. -/
def openRange (place : Nat) (stop : EditAddress) : LineStep Unit := do
  let n := (← get).number
  let upTo (last : Nat) : LineStep Unit :=
    if last ≤ n then return () else setRange place (.upTo last)
  match stop with
  | .line last => upTo last
  | .more count => upTo (n + count)
  | .multiple size => upTo (if size = 0 then n else (n + size - 1) / size * size)
  | .every .. | .last | .matching _ => setRange place .open

/-- Whether the line that is held is in the range of a command. -/
def meetsRange (place : Nat) (start stop : EditAddress) : LineStep Bool := do
  let e ← get
  let closesHere : LineStep Bool := do
    if ← meetsAddress stop then setRange place .inactive
    return true
  match (e.ranges[place]?).getD .inactive with
  | .open => closesHere
  | .upTo last =>
    if last ≤ e.number then setRange place .inactive
    if e.number ≤ last then return true
    else
      if ← meetsAddress start then
        openRange place stop
        return true
      return false
  | .inactive =>
    match start with
    | .line 0 =>
      if e.number = 1 then
        setRange place .open
        closesHere
      else return false
    | start =>
      if ← meetsAddress start then
        openRange place stop
        return true
      else return false

/-- Whether a command is for the line that is held. -/
def isAddressed (place : Nat) (c : EditCommand) : LineStep Bool := do
  let found ← match c.first, c.second with
    | none, _ => pure true
    | some address, none => meetsAddress address
    | some start, some stop => meetsRange place start stop
  return found != c.negated

/-! ## Replacements -/

/-- Characters with a change of case: of the next one, or of all. -/
def withCase (next all : Option CaseChange) (cs : List Char) : List Char :=
  let change (c? : Option CaseChange) (c : Char) : Char :=
    match c? with
    | some .upper | some .nextUpper => c.toUpper
    | some .lower | some .nextLower => c.toLower
    | _ => c
  match cs with
  | [] => []
  | c :: cs =>
    let c := if next.isSome then change next c else change all c
    c :: cs.map (change all)

/-- What takes the place of a match. -/
def substitute (line : Array Char) (f : RegexFound) (next all : Option CaseChange) :
    List ReplacementPart → List Char
  | [] => []
  | part :: parts =>
    let put (cs : List Char) : List Char :=
      withCase next all cs ++ substitute line f (if cs.isEmpty then next else none) all parts
    match part with
    | .text cs => put cs
    | .group 0 => put (line.extract f.start f.stop).toList
    | .group n =>
      match f.groups[n]?.getD none with
      | some (start, stop) => put (line.extract start stop).toList
      | none => put []
    | .change .ended => substitute line f none none parts
    | .change .upper => substitute line f next (some .upper) parts
    | .change .lower => substitute line f next (some .lower) parts
    | .change c => substitute line f (some c) all parts

/-- A line with matches replaced, from a place on; `count` are the matches so far, and `before` is
the end of the last one.  None if nothing is replaced. -/
def replaceMatches (r : Replacement) (regex : RegexProgram) (line : Array Char) :
    Nat → Nat → Nat → Option Nat → Option (List Char)
  | 0, _, _, _ => none
  | fuel + 1, start, count, before =>
    let rest (stop : Nat) : List Char := (line.extract stop line.size).toList
    match regex.search line start with
    | none => none
    | some f =>
      let front := (line.extract start f.start).toList
      let isEmpty := f.start = f.stop
      let stepped : List Char := if isEmpty then (line.extract f.stop (f.stop + 1)).toList else []
      let next := if isEmpty then f.stop + 1 else f.stop
      let isOver := line.size < next
      if isEmpty && before = some f.start then
        if isOver then none
        else (replaceMatches r regex line fuel next count none).map (front ++ stepped ++ ·)
      else if count + 1 < r.number then
        if isOver then none
        else
          let kept := (line.extract f.start f.stop).toList
          (replaceMatches r regex line fuel next (count + 1) (some f.stop)).map
            (front ++ kept ++ stepped ++ ·)
      else
        let put := front ++ substitute line f none none r.parts
        if !r.isGlobal then some (put ++ rest f.stop)
        else if isOver then some put
        else
          match replaceMatches r regex line fuel next (count + 1) (some f.stop) with
          | some more => some (put ++ stepped ++ more)
          | none => some (put ++ rest f.stop)

/-! ## Lists -/

/-- A character as it is listed. -/
def listedChar (c : Char) : List Char :=
  match c with
  | '\\' => ['\\', '\\']
  | '\x07' => ['\\', 'a']
  | '\x08' => ['\\', 'b']
  | '\x0c' => ['\\', 'f']
  | '\n' => ['\\', 'n']
  | '\r' => ['\\', 'r']
  | '\t' => ['\\', 't']
  | '\x0b' => ['\\', 'v']
  | c =>
    if 32 ≤ c.toNat && c.toNat ≤ 126 then [c]
    else
      let digits := Nat.toDigits 8 c.toNat
      '\\' :: List.replicate (3 - digits.length) '0' ++ digits

/-- A line as it is listed, folded to a width; zero stands for any width. -/
def listedLine (width column : Nat) : List Char → List Char
  | [] => ['$']
  | c :: cs =>
    let shown := listedChar c
    if width ≠ 0 && width < column + shown.length + 1 then
      '\\' :: '\n' :: shown ++ listedLine width shown.length cs
    else shown ++ listedLine width (column + shown.length) cs

/-! ## Commands -/

/-- Takes the next line for the commands that follow. -/
def takeFollowing (adds : Bool) : LineStep Unit := do
  let e ← get
  match ← takeLine adds (e.waiting.length + 2) with
  | .ok true => return ()
  | .ok false => throw .starved
  | .error (.failed status) => throw (.failed status)

/-- Carries out a replacement. -/
def carryOutReplacement (r : Replacement) : LineStep Unit := do
  let regex ← usedRegex r.regex
  let e ← get
  let line := e.text.toArray
  match replaceMatches r regex line (line.size + 2) 0 0 none with
  | none => return ()
  | some text =>
    set { e with text, hasReplaced := true }
    if r.prints then putLine e.target text e.isClosed
    if let some path := r.target then putLine (targetOf path) text e.isClosed

/-- Carries out a command on the line that is held; tells where to go on if that is not behind
it. -/
def carryOutAction (place : Nat) (c : EditCommand) : LineStep (Option Nat) := do
  let e ← get
  let jumpTo (label : String) : Option Nat :=
    some ((Table.find? label e.script.labels).getD e.script.commands.size)
  let firstLine := e.text.takeWhile (· ≠ '\n')
  match c.action with
  | .block _ | .nothing => return none
  | .jump .always label => return jumpTo label
  | .jump .replaced label =>
    set { e with hasReplaced := false }
    return if e.hasReplaced then jumpTo label else none
  | .jump .unreplaced label =>
    set { e with hasReplaced := false }
    return if e.hasReplaced then none else jumpTo label
  | .append text => set { e with appended := .text text :: e.appended }
  | .insert text => putText e.target text
  | .change text =>
    let isInside := c.second.isSome && (e.ranges[place]?).getD .inactive ≠ .inactive
    unless isInside do putText e.target text
    throw .dropped
  | .delete => throw .dropped
  | .deleteFirst =>
    if e.text.contains '\n' then
      set { e with text := e.text.drop (firstLine.length + 1) }
      throw .again
    else throw .dropped
  | .next =>
    if ← isLastLine then throw (.quit e.status true)
    putHeld
    flushAppended
    takeFollowing false
  | .appendNext =>
    if ← isLastLine then throw (.quit e.status true)
    flushAppended
    takeFollowing true
  | .print => putLine e.target e.text e.isClosed
  | .printFirst => putLine e.target firstLine true
  | .copyToHold => set { e with hold := e.text }
  | .addToHold => set { e with hold := e.hold ++ '\n' :: e.text }
  | .copyFromHold => set { e with text := e.hold }
  | .addFromHold => set { e with text := e.text ++ '\n' :: e.hold }
  | .exchange => set { e with text := e.hold, hold := e.text }
  | .clear => set { e with text := [] }
  | .quit status prints => throw (.quit status prints)
  | .list width =>
    let width := width.getD e.options.width
    let width := if width = 1 then 0 else width
    putText e.target (listedLine width 0 e.text ++ ['\n'])
  | .number => putText e.target (Decimal.digits e.number ++ ['\n'])
  | .fileName => putText e.target ((e.source.getD "-").toList ++ ['\n'])
  | .readFile path => set { e with appended := .file path :: e.appended }
  | .readLine path =>
    let lines ← match Table.find? path e.readers with
      | some lines => pure lines
      | none =>
        match ← (readPath path 0 : Run _) with
        | .ok a => pure (Input.lines ⟨path, a.bytes, true⟩)
        | .error _ => pure []
    match lines with
    | line :: rest =>
      set { e with
        readers := Table.insert path rest e.readers
        appended := .text (line.text ++ ['\n']) :: e.appended }
    | [] => set { e with readers := Table.insert path [] e.readers }
  | .writeFile path => putLine (targetOf path) e.text e.isClosed
  | .writeFirst path => putLine (targetOf path) firstLine true
  | .replace r => carryOutReplacement r
  | .map table => set { e with text := e.text.map fun (c : Char) => table[c.toNat]?.getD c }
  return none

/-- Carries out the commands from a place on. -/
def carryOutFrom : Nat → Nat → LineStep Unit
  | 0, _ => throw .starved
  | fuel + 1, place => do
    match (← get).script.commands[place]? with
    | none => return ()
    | some c =>
      if ← isAddressed place c then
        match ← carryOutAction place c with
        | some target => carryOutFrom fuel target
        | none => carryOutFrom fuel (place + 1)
      else
        match c.action with
        | .block stop => carryOutFrom fuel (stop + 1)
        | _ => carryOutFrom fuel (place + 1)

/-- The most commands that are carried out for one line. -/
def maxCommands : Nat := 1000000

/-- Goes along the lines; `again` tells that the line which is held goes through the commands once
more.  Gives the status. -/
def editLines : Nat → Bool → Editing Nat
  | 0, _ => return 0
  | fuel + 1, again => do
    let e ← get
    let taken ← if again then pure (.ok true) else takeLine false (e.waiting.length + 2)
    match taken with
    | .error (.failed status) => return status
    | .ok false => return (← get).status
    | .ok true =>
      unless again do modify fun e => { e with hasReplaced := false }
      let ending ← match ← (carryOutFrom maxCommands 0).run with
        | .ok () => pure LineEnding.written
        | .error ending => pure ending
      match ending with
      | .written =>
        putHeld
        flushAppended
        editLines fuel false
      | .dropped =>
        flushAppended
        editLines fuel false
      | .again =>
        flushAppended
        editLines fuel true
      | .quit status prints =>
        if prints then
          putHeld
          flushAppended
        finishRest
        let earlier := (← get).status
        return if status = 0 then earlier else status
      | .failed status => return status
      | .starved =>
        (starve : Run Unit)
        return 0
where
  /-- Writes what is left of the file that is edited. -/
  finishRest : Editing Unit := do
    let e ← get
    if e.options.inPlace.isSome then
      for line in e.lines do putLine .edited line.text line.isClosed
    finishEdited

/-! ## The tool -/

/-- A piece of a script: the file that it was in, and its text. -/
structure ScriptPiece where
  path : Option String
  text : List Char

/-- What is said of a place in a script that is made of pieces: in which piece it is, and where. -/
def placeInPieces (consumed : Nat) (expressions : Nat) : List ScriptPiece → String
  | [] => ""
  | piece :: rest =>
    let isExpression := piece.path.isNone
    let expressions := if isExpression then expressions + 1 else expressions
    if consumed ≤ piece.text.length || rest.isEmpty then
      match piece.path with
      | none =>
        "-e expression #" ++ Decimal.natText expressions ++ ", char "
          ++ Decimal.natText (min consumed piece.text.length) ++ ": "
      | some path =>
        let line := (piece.text.take (consumed - 1)).count '\n' + 1
        "file " ++ path ++ " line " ++ Decimal.natText line ++ ": "
    else placeInPieces (consumed - piece.text.length - 1) expressions rest

/-- The options of `sed`. -/
def sedTable : OptionTable :=
  OptionTable.ofText "bsnrzuEe:f:l:i::D"
    [("expression", 'e'), ("file", 'f'), ("in-place", 'i'), ("line-length", 'l'),
      ("null-data", 'z'), ("quiet", 'n'), ("posix", 'D'), ("regexp-extended", 'r'),
      ("separate", 's'), ("silent", 'n'), ("unbuffered", 'u'), ("debug", 'D'),
      ("sandbox", 'D'), ("follow-symlinks", 'D')]

/-- The pieces of a script that options give, or in front of the operands, which follow. -/
def scriptPieces (tool : String) (o : Options) :
    Run (Option (List ScriptPiece × List String)) := do
  if o.hasAny ['e', 'f'] then
    let mut pieces := #[]
    for (letter, value) in o.given do
      let value := value.getD ""
      if letter = 'e' then pieces := pieces.push ⟨none, value.toList⟩
      else if letter = 'f' then
        match ← if value = "-" then readStandard 0 else readPath value 0 with
        | .ok a =>
          let text := charsOf a.bytes
          let text := if text.getLast? = some '\n' then text.dropLast else text
          pieces := pieces.push ⟨some value, text⟩
        | .error .isADirectory =>
          complain (tool ++ ": couldn't read " ++ value ++ ": Is a directory")
          return none
        | .error fault =>
          complain (tool ++ ": couldn't open file " ++ value ++ ": " ++ fault.text)
          return none
    return some (pieces.toList, o.operands)
  else
    match o.operands with
    | [] => return some ([], [])
    | text :: rest => return some ([⟨none, text.toList⟩], rest)

/-- The paths of the files that a script writes. -/
def writtenPaths (script : EditScript) : List String :=
  script.commands.toList.filterMap fun c =>
    match c.action with
    | .writeFile path | .writeFirst path => some path
    | .replace r => r.target
    | _ => none

/-- Opens the files that are written; gives what is said if that fails. -/
def openTargets (tool : String) (opened : Table Nat) : List String → Run (Option (Table Nat))
  | [] => return some opened
  | path :: rest => do
    if (Table.find? path opened).isSome || targetOf path ≠ .file path then
      openTargets tool opened rest
    else
      match ← openForWriting path .create with
      | .ok channel =>
        let s ← get
        set { s with channels := s.channels.push channel }
        openTargets tool (Table.insert path s.channels.size opened) rest
      | .error fault =>
        complain (tool ++ ": couldn't open file " ++ path ++ ": " ++ fault.text)
        return none

/-- Says how the tool is used. -/
def sayUsage (tool : String) : Run Nat := do
  complain ("Usage: " ++ tool ++
    " [OPTION]... \x7bscript-only-if-no-other-script\x7d [input-file]...")
  return 1

/-- Edits the lines of its inputs. -/
def sedTool (tool : String) (arguments : List String) : Run Nat := do
  match sedTable.read arguments with
  | .error why =>
    complain (tool ++ ": " ++ why)
    sayUsage tool
  | .ok o =>
    match ← scriptPieces tool o with
    | none => return 4
    | some ([], _) => sayUsage tool
    | some (pieces, operands) =>
      let text := ['\n'].intercalate (pieces.map ScriptPiece.text)
      let style : EditScript.Style := { isExtended := o.hasAny ['r', 'E'] }
      match EditScript.read style text with
      | .error fault =>
        let place := match fault.remaining with
          | none => ""
          | some remaining => placeInPieces (text.length - remaining) 0 pieces
        failing fault.status tool (place ++ fault.text)
      | .ok script =>
        let inPlace := if o.has 'i' then some ((o.value? 'i').getD "") else none
        if inPlace.isSome && operands.isEmpty then
          return ← failing 4 tool "no input files"
        match ← openTargets tool [] (writtenPaths script) with
        | none => return 4
        | some channels =>
          let options : EditOptions :=
            { tool, inPlace
              isQuiet := o.has 'n' || script.isQuiet
              isSeparate := o.hasAny ['s', 'i']
              mark := if o.has 'z' then 0 else 10
              width := ((o.value? 'l').bind natOf?).getD 70 }
          let editor : Editor :=
            { script, options, channels
              waiting := if operands.isEmpty then ["-"] else operands
              ranges := Array.replicate script.commands.size .inactive }
          let (status, _) ← (editLines 100000000 false).run editor
          return status

end LayerNet.Shell
