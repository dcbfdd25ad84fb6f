import LayerNet.Shell.Tools.Input
import LayerNet.Shell.Tools.Options

/-!
# Tools for streams

Tools that pass their inputs on, as a whole or in part.

Main definitions:

- `catTool`, `tacTool`, `revTool`: inputs one behind another, or backwards.
- `headTool`, `tailTool`: the first or last part of each input.
- `teeTool`: the input, to several outputs.
- `yesTool`: the same line without end.
-/

namespace LayerNet.Shell

/-! ## One behind another -/

/-- How `cat` shows a character that is no end of a line. -/
def shownByte (controls tabs : Bool) (c : Char) : List Char :=
  if c = '\t' then if tabs then ['^', 'I'] else [c]
  else if !controls then [c]
  else
    let (front, n) := if c.toNat < 128 then ([], c.toNat) else (['M', '-'], c.toNat - 128)
    front ++ (if n < 32 then ['^', Char.ofNat (n + 64)] else if n = 127 then ['^', '?']
      else [Char.ofNat n])

/-- Which signs `cat` adds to lines. -/
structure CatStyle where
  numbers : Bool
  filledNumbers : Bool
  squeezes : Bool
  ends : Bool
  controls : Bool
  tabs : Bool

/-- Lines as `cat` shows them; `number` is the number of the last line, and `blank` tells whether it
was empty. -/
def CatStyle.lines (style : CatStyle) (number : Nat) (blank : Bool) : List Line → List Char
  | [] => []
  | line :: rest =>
    let isBlank := line.text.isEmpty && line.isClosed
    if style.squeezes && isBlank && blank then style.lines number blank rest
    else
      let counts := style.numbers && !(style.filledNumbers && isBlank)
      let number := if counts then number + 1 else number
      let front := if counts then numberIn 6 number ++ ['\t'] else []
      let returned := style.ends && !style.controls && line.isClosed
        && line.text.getLast? = some '\r'
      let text := if returned then line.text.dropLast else line.text
      let shown := text.flatMap (shownByte style.controls style.tabs)
      let back := if !line.isClosed then []
        else (if returned then ['^', 'M'] else []) ++ (if style.ends then ['$'] else []) ++ ['\n']
      front ++ shown ++ back ++ style.lines number isBlank rest

/-- Whether an operand is the file that the standard output is added to. -/
def State.isOwnOutput (s : State) (operand : String) : Bool :=
  match s.channel? 1, s.files.locate (toText operand) with
  | some (_, .file place _ access), .ok (found, .file content _) =>
    access.appends && place = found && content.size ≠ 0
  | _, _ => false

/-- Writes inputs one behind another. -/
def catTool (tool : String) (arguments : List String) : Run Nat := do
  let table := OptionTable.ofText "AbeEnstTuv"
    [("show-all", 'A'), ("number-nonblank", 'b'), ("show-ends", 'E'), ("number", 'n'),
      ("squeeze-blank", 's'), ("show-tabs", 'T'), ("show-nonprinting", 'v')]
  withOptions tool 1 table arguments fun o => do
    let s ← get
    let (own, others) := o.operands.partition s.isOwnOutput
    for operand in own do
      complain (tool ++ ": " ++ shownName operand ++ ": input file is output file")
    if others.isEmpty && !own.isEmpty then return 1
    let (inputs, status) ← readOperands (.plain tool) 1 others
    let style : CatStyle :=
      { numbers := o.hasAny ['n', 'b']
        filledNumbers := o.has 'b'
        squeezes := o.has 's'
        ends := o.hasAny ['A', 'e', 'E']
        controls := o.hasAny ['A', 'e', 't', 'v']
        tabs := o.hasAny ['A', 't', 'T'] }
    if o.given.all fun g => g.1 = 'u' then
      for input in inputs do writeBytes 1 input.bytes
    else outChars (style.lines 0 false (joinInputs inputs).lines)
    starveBehind inputs
    return if own.isEmpty then status else 1

/-- Records that each end with a separator, or begin with one; the last one, or the first one, may
lack it. -/
def recordsAt (before : Bool) (separator : List Char) :
    Nat → List Char → List Char → List (List Char)
  | 0, begun, cs => [begun.reverse ++ cs]
  | _, begun, [] => if begun.isEmpty then [] else [begun.reverse]
  | fuel + 1, begun, c :: cs =>
    match Text.dropFront? separator (c :: cs) with
    | some rest =>
      if before then
        let rest := recordsAt before separator fuel separator.reverse rest
        if begun.isEmpty then rest else begun.reverse :: rest
      else (begun.reverse ++ separator) :: recordsAt before separator fuel [] rest
    | none => recordsAt before separator fuel (c :: begun) cs

/-- Writes the records of each input in the opposite order. -/
def tacTool (tool : String) (arguments : List String) : Run Nat := do
  let table := OptionTable.ofText "brs:" [("before", 'b'), ("regex", 'r'), ("separator", 's')]
  withOptions tool 1 table arguments fun o => do
    let faults : InputFaults :=
      { opening := fun path why =>
          tool ++ ": failed to open " ++ shellQuoted path ++ " for reading: " ++ why
        reading :=
          fun path _ => tool ++ ": " ++ shownName path ++ ": read error: Invalid argument" }
    let (inputs, status) ← readOperands faults 1 o.operands
    let separator := ((o.value? 's').getD "\n").toList
    if ← haveAll inputs then
      for input in inputs do
        let cs := charsOf input.bytes
        outChars (recordsAt (o.has 'b') separator (cs.length + 1) [] cs).reverse.flatten
    return status

/-- Writes lines with their characters in the opposite order. -/
def revTool (tool : String) (arguments : List String) : Run Nat := do
  withOptions tool 1 (OptionTable.ofText "V" []) arguments fun o => do
    let faults : InputFaults :=
      { opening := fun path why => tool ++ ": cannot open " ++ path ++ ": " ++ why
        reading := fun path why => tool ++ ": " ++ path ++ ": " ++ why }
    let (inputs, status) ← readOperands faults 1 o.operands
    for input in inputs do
      outAsClosed (input.lines.map fun line => { line with text := line.text.reverse })
    starveBehind inputs
    return status

/-! ## Parts -/

/-- The part of an input that is wanted: bytes or lines, counted from the front or from the
back. -/
structure Extent where
  inBytes : Bool := false
  count : Nat := 10
  fromBack : Bool := false

/-- How many bytes there are up to the end of a number of lines; fewer lines if there are not as
many. -/
def sizeOfLines (mark : UInt8) : Nat → List UInt8 → Nat
  | 0, _ => 0
  | _, [] => 0
  | n + 1, b :: bytes =>
    if b = mark then sizeOfLines mark n bytes + 1 else sizeOfLines mark (n + 1) bytes + 1

/-- How many lines there are; one that is not closed counts too. -/
def countLines (mark : UInt8) (bytes : List UInt8) : Nat :=
  let closed := bytes.count mark
  if bytes.getLast?.all (· = mark) then closed else closed + 1

/-- How many bytes of an input the first part has, if the rest does not matter. -/
def Extent.frontSize (e : Extent) (mark : UInt8) (input : Available) : Nat :=
  if e.inBytes then
    if e.fromBack then input.bytes.length - e.count else min e.count input.bytes.length
  else
    let lines := if e.fromBack then countLines mark input.bytes - e.count else e.count
    sizeOfLines mark lines input.bytes

/-- Whether what is known of an input has the whole first part. -/
def Extent.isServed (e : Extent) (mark : UInt8) (input : Available) : Bool :=
  input.isWhole ||
    !e.fromBack && e.count ≤ (if e.inBytes then input.bytes.length else input.bytes.count mark)

/-- The line in front of the part of a file that is one of several. -/
def partHeading (isFirst : Bool) (operand : String) : String :=
  (if isFirst then "" else "\n") ++ "==> " ++ inputName operand ++ " <==\n"

/-- The size of the pieces in which tools read their input. -/
def pieceSize : Nat := 8192

/-- What an operand gives to read, which is not passed over. -/
def lookInto (operand : String) (wanted : Nat) : Run (Except FileFault Available) := do
  if operand = "-" then return (← get).available 0 wanted
  else readPath operand wanted

/-- Passes over what was read for the first part of the standard input: of lines in what cannot be
gone back in, whole pieces. -/
def passPart (e : Extent) (size : Nat) (input : Available) : Run Unit := do
  let s ← get
  let canGoBack := match s.channel? 0 with
    | some (_, .file ..) => true
    | _ => false
  if e.fromBack then passOver 0 (if canGoBack then size else input.bytes.length)
  else if e.inBytes || canGoBack then passOver 0 size
  else passOver 0 ((size + pieceSize - 1) / pieceSize * pieceSize)

/-- Arguments in which a number behind a single dash is written as an option of its own; gives the
letter that is wrong behind the number if there is one. -/
def spelledOutHead : List String → Except Char (List String)
  | [] => .ok []
  | first :: rest =>
    match first.toList with
    | '-' :: d :: more =>
      if !d.isDigit then .ok (first :: rest)
      else
        let digits := (d :: more).takeWhile Char.isDigit
        let letters := (d :: more).drop digits.length
        match letters.find? fun c => !("bckmlqvz".toList.contains c) with
        | some c => .error c
        | none =>
          let unit := letters.filter fun c => c = 'b' || c = 'k' || c = 'm'
          let size := String.ofList (digits ++ unit.getLast?.toList)
          let inBytes := letters.any fun c => c = 'c' || c = 'b' || c = 'k' || c = 'm'
          let flags := (letters.filter fun c => c = 'q' || c = 'v' || c = 'z').map fun c =>
            String.ofList ['-', c]
          .ok ((if inBytes then "-c" else "-n") :: size :: flags ++ rest)
    | _ => .ok (first :: rest)

/-- What the options of `head` ask for. -/
def headExtent (o : Options) : Except String Extent :=
  (o.given.filter fun g => g.1 = 'c' || g.1 = 'n').foldlM
    (fun e g => do
      let text := g.2.getD ""
      let fromBack := text.startsWith "-"
      let text := if fromBack then String.ofList text.toList.tail else text
      let what := if g.1 = 'c' then "invalid number of bytes" else "invalid number of lines"
      let count ← checkedCount lengthUnits text what
      return { e with inBytes := g.1 = 'c', count, fromBack })
    {}

/-- The options for headings and for the ends of lines. -/
def partNames : List (String × Char) :=
  [("bytes", 'c'), ("lines", 'n'), ("quiet", 'q'), ("silent", 'q'), ("verbose", 'v'),
    ("zero-terminated", 'z')]

/-- Whether headings are wanted. -/
def wantsHeadings (o : Options) (operands : List String) : Bool :=
  match o.last? ['q', 'v'] with
  | some 'q' => false
  | some _ => true
  | none => 1 < operands.length

/-- Writes the first part of each input. -/
def headTool (tool : String) (arguments : List String) : Run Nat := do
  let refuse (c : Char) : Run Nat := do
    complainOfUsage tool ("invalid trailing option -- " ++ String.singleton c)
    return 1
  match spelledOutHead arguments with
  | .error c => refuse c
  | .ok arguments =>
    let table := OptionTable.ofText "c:n:qvz0123456789" partNames
    withOptions tool 1 table arguments fun o => do
      match o.given.find? fun g => g.1.isDigit with
      | some (c, _) => refuse c
      | none =>
        match headExtent o with
        | .error why => failing 1 tool why
        | .ok e =>
          let operands := if o.operands.isEmpty then ["-"] else o.operands
          let mark : UInt8 := if o.has 'z' then 0 else 10
          let mut status := 0
          let mut isFirst := true
          for operand in operands do
            let wanted := max (← endlessSize) (if e.inBytes then e.count else 0)
            let heading := if wantsHeadings o operands then partHeading isFirst operand else ""
            let faults := InputFaults.spoken tool
            match ← lookInto operand wanted with
            | .ok input =>
              out heading
              let size := e.frontSize mark input
              writeBytes 1 (input.bytes.take size)
              if operand = "-" then passPart e size input
              unless e.isServed mark input do starve
              isFirst := false
            | .error .isADirectory =>
              out heading
              complain (faults.reading operand FileFault.isADirectory.text)
              isFirst := false
              status := 1
            | .error fault =>
              complain (faults.opening operand fault.text)
              status := 1
          return status

/-- Arguments in which a number behind a single sign is written as an option of its own. -/
def spelledOutTail (arguments : List String) : List String :=
  let spelled (first : String) (rest : List String) : List String :=
    match first.toList with
    | sign :: cs =>
      let digits := cs.takeWhile Char.isDigit
      let letters := cs.drop digits.length
      let option? : Option String := match letters with
        | [] | ['l'] => some "-n"
        | ['c'] | ['b'] => some "-c"
        | _ => none
      match option? with
      | some option =>
        if (sign = '-' || sign = '+') && !digits.isEmpty then
          let unit := if letters = ['b'] then ['b'] else []
          option :: String.ofList (sign :: digits ++ unit) :: rest
        else first :: rest
      | none => first :: rest
    | [] => first :: rest
  match arguments with
  | [first] => spelled first []
  | [first, path] =>
    if path.startsWith "-" && path ≠ "-" then arguments else spelled first [path]
  | arguments => arguments

/-- What the options of `tail` ask for. -/
def tailExtent (o : Options) : Except String Extent :=
  (o.given.filter fun g => g.1 = 'c' || g.1 = 'n').foldlM
    (fun e g => do
      let text := g.2.getD ""
      let fromBack := !text.startsWith "+"
      let text := if text.startsWith "-" then String.ofList text.toList.tail else text
      let what := if g.1 = 'c' then "invalid number of bytes" else "invalid number of lines"
      let count ← checkedCount lengthUnits text what
      return { e with inBytes := g.1 = 'c', count, fromBack })
    { fromBack := true }

/-- How many bytes of an input stand in front of the last part. -/
def Extent.backStart (e : Extent) (mark : UInt8) (bytes : List UInt8) : Nat :=
  if e.inBytes then if e.fromBack then bytes.length - e.count else e.count - 1
  else sizeOfLines mark (if e.fromBack then countLines mark bytes - e.count else e.count - 1) bytes

/-- Writes the last part of each input. -/
def tailTool (tool : String) (arguments : List String) : Run Nat := do
  let table := OptionTable.ofText "c:n:fFqs:vz"
    (partNames ++ [("follow", 'f'), ("sleep-interval", 's')])
  withOptions tool 1 table (spelledOutTail arguments) fun o => do
    match tailExtent o with
    | .error why => failing 1 tool why
    | .ok e =>
      let operands := if o.operands.isEmpty then ["-"] else o.operands
      let mark : UInt8 := if o.has 'z' then 0 else 10
      let mut status := 0
      let mut isFirst := true
      for operand in operands do
        let wanted ← endlessSize
        let heading := if wantsHeadings o operands then partHeading isFirst operand else ""
        let faults := InputFaults.spoken tool
        match ← if operand = "-" then readStandard wanted else readPath operand wanted with
        | .ok input =>
          out heading
          if input.isWhole || !e.fromBack then
            writeBytes 1 (input.bytes.drop (e.backStart mark input.bytes))
          unless input.isWhole do starve
          isFirst := false
        | .error .isADirectory =>
          out heading
          complain (faults.reading operand FileFault.isADirectory.text)
          isFirst := false
          status := 1
        | .error fault =>
          complain (faults.opening operand fault.text)
          status := 1
      return status

/-! ## Several outputs -/

/-- Writes the input to the standard output and to files. -/
def teeTool (tool : String) (arguments : List String) : Run Nat := do
  let table := OptionTable.ofText "aip"
    [("append", 'a'), ("ignore-interrupts", 'i'), ("output-error", 'p')]
  withOptions tool 1 table arguments fun o => do
    let mode : OutputMode := if o.has 'a' then .append else .create
    let before := (← get).descriptors
    let mut status := 0
    let mut channels := #[]
    for path in o.operands do
      match ← openForWriting path mode with
      | .ok channel =>
        leadTo 9 channel
        channels := channels.push ((← get).channels.size - 1)
      | .error fault =>
        complain (tool ++ ": " ++ shownName path ++ ": " ++ fault.text)
        status := 1
    match ← readStandard (← endlessSize) with
    | .ok a =>
      writeBytes 1 a.bytes
      for channel in channels do
        modify fun s => s.redirected 9 channel
        writeBytes 9 a.bytes
      unless a.isWhole do starve
    | .error fault =>
      complain (tool ++ ": read error: " ++ fault.text)
      status := 1
    modify fun s => { s with descriptors := before }
    return status

/-- Writes the same line without end, that is, more of it than is wanted. -/
def yesTool (tool : String) (arguments : List String) : Run Nat := do
  withOptions tool 1 { letters := [], names := [] } arguments fun o => do
    let words := if o.operands.isEmpty then ["y"] else o.operands
    let line := toBytes (" ".intercalate words ++ "\n")
    let count := (← endlessSize) / line.length + 1
    writeBytes 1 (List.replicate count line).flatten
    if (← get).writeFault.isNone then starve
    return 1

end LayerNet.Shell
