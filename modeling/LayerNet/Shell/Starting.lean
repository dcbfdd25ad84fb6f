import LayerNet.Shell.Builtins.Names
import LayerNet.Shell.Builtins.Surroundings
import LayerNet.Shell.Redirection
import LayerNet.Shell.Tools.Catalog

/-!
# Starting programs

A program is a tool, a shell or a file of commands.  It runs apart from the shell that starts it, so
that only what it does to files and channels remains, with its status.

Main definitions:

- `shellTool`: a shell on its arguments.
- `runTool`: a tool, which may start another program.
- `runExternal`: starts a program by its name.
-/

namespace LayerNet.Shell

/-! ## Shells -/

/-- The variables that a shell has from the beginning. -/
def initialVariables (environment : Table String) (parent : Nat) (directory : String) :
    Table Variable :=
  let given : Table Variable := environment.filterMap fun v =>
    if Word.isName v.1 then some (v.1, { value? := some v.2, isExported := true }) else none
  let usual : List (String × Variable) :=
    [("PATH", { value? := some usualSearchPath }), ("PS1", { value? := some "# " }),
      ("PS2", { value? := some "> " }), ("PS4", { value? := some "+ " })]
  let fixed : List (String × Variable) :=
    [("IFS", { value? := some " \t\n" }), ("OPTIND", { value? := some "1" }),
      ("PPID", { value? := some (Decimal.natText parent) }),
      ("PWD", { value? := some directory, isExported := true })]
  let missing := usual.filter fun v => (Table.find? v.1 given).isNone
  (missing ++ fixed).foldl (fun table v => Table.insert v.1 v.2 table) given

/-- Carries out the commands of a text in a new shell. -/
def newShell (run : Runner) (name : String) (arguments : List String) (options : List Char)
    (text : List Char) : Step Unit := do
  let s ← get
  let directory := fromText (Path.ofPlace s.files.current)
  set { s with
    name, arguments, options
    number := s.own
    parent := s.number
    variablesByName := initialVariables s.environment s.number directory
    functions := [], aliases := [], frames := [], found := []
    status := 0, substituted := 0, line := 0, depth := 0, loops := 0
    command := none
    isTested := false
    lastBackground := none
    optionIndex := 1, optionPlace := 0
    traps := innerTraps s.traps }
  wholeShell run (runText run text)

/-- Complains about the way a shell is started. -/
def refuseShell (name what : String) : Step Unit := do
  complain (name ++ ": 0: " ++ what)
  exitWith 2

/-- Carries out the commands of a file in a new shell. -/
def shellOnFile (run : Runner) (name path : String) (arguments : List String)
    (options : List Char) : Step Unit := do
  match ← openForReading path with
  | .ok channel =>
    leadTo 9 channel
    let content := match (← get).available 9 0 with
      | .ok a => a.bytes
      | .error _ => []
    closeDescriptor 9
    newShell run path arguments options (charsOf content)
  | .error fault =>
      refuseShell name ("cannot open " ++ path ++ ": " ++ openFault "No such file" fault)

/-- Carries out the commands in the standard input in a new shell; all that is known of it is
taken. -/
def shellOnInput (run : Runner) (name : String) (arguments : List String)
    (options : List Char) : Step Unit := do
  match (← get).available 0 0 with
  | .error _ => return ()
  | .ok a =>
    passOver 0 a.bytes.length
    let text := charsOf a.bytes
    let text := if a.isWhole then text else (text.reverse.dropWhile (· ≠ '\n')).reverse
    newShell run name arguments ('s' :: options) text
    unless a.isWhole do starve

/-- What a shell is told by its arguments: options, whether commands are given, or are in the
standard input, and operands. -/
structure ShellCall where
  options : List Char := []
  given : Bool := false
  fromInput : Bool := false
  operands : List String := []

/-- Reads the arguments of a shell; gives what is wrong with them if anything is. -/
def readShellCall (call : ShellCall) : List String → Except String ShellCall
  | [] => .ok call
  | argument :: rest =>
    match argument.toList with
    | ['-'] | ['-', '-'] => .ok { call with operands := rest }
    | sign :: letters =>
      if letters.isEmpty || (sign ≠ '-' && sign ≠ '+') then
        .ok { call with operands := argument :: rest }
      else
        let refused := letters.find? fun c =>
          c ≠ 'c' && c ≠ 'l' && c ≠ 'o' && !(c.isAlpha && optionNames.any fun o => o.2 == c)
        match refused with
        | some c => .error ("Illegal option " ++ String.ofList [sign, c])
        | none =>
          let set := letters.filter fun c => c ≠ 'c' && c ≠ 'o'
          let others := call.options.filter fun c => !set.contains c
          let call := { call with
            options := if sign = '-' then set ++ others else others
            given := call.given || letters.contains 'c'
            fromInput := call.fromInput || letters.contains 's' }
          if letters.contains 'o' then
            match rest with
            | [] => .ok call
            | name :: rest =>
              match optionNames.find? fun o => o.1 == name with
              | none => .error ("Illegal option " ++ String.ofList [sign] ++ "o " ++ name)
              | some (_, letter) =>
                let others := call.options.filter (· ≠ letter)
                let options := if sign = '-' then letter :: others else others
                readShellCall { call with options } rest
          else readShellCall call rest
    | [] => .ok { call with operands := argument :: rest }

/-- Runs a shell on its arguments: the commands are given, or in a file, or in the standard
input. -/
def shellTool (run : Runner) (name : String) (arguments : List String) : Step Unit := do
  match readShellCall {} arguments with
  | .error why => refuseShell name why
  | .ok call =>
    if call.given then
      match call.operands with
      | [] => refuseShell name "-c requires an argument"
      | text :: rest =>
        newShell run (rest.head?.getD name) rest.tail call.options text.toList
    else if call.fromInput then shellOnInput run name call.operands call.options
    else
      match call.operands with
      | [] => shellOnInput run name [] call.options
      | path :: rest => shellOnFile run name path rest call.options

/-! ## Tools -/

/-- Says that something could not be written, in the way of a tool; gives the status. -/
def sayUnwritten (name calledAs : String) (fault : FileFault) (status : Nat) : Run Nat := do
  let why := fault.text
  match name with
  | "cat" | "yes" => complain (calledAs ++ ": standard output: " ++ why)
  | "sort" =>
    complain (calledAs ++ ": fflush failed: 'standard output': " ++ why)
    complain (calledAs ++ ": write error")
  | "sed" => complain (calledAs ++ ": couldn't close stdout: " ++ why)
  | "tee" => complain (calledAs ++ ": 'standard output': " ++ why)
  | "rev" => pure ()
  | _ => complain (calledAs ++ ": write error: " ++ why)
  let failure := match name with
    | "ls" | "sort" | "grep" | "diff" | "cmp" | "mawk" | "awk" => 2
    | "sed" => 4
    | _ => 1
  return max status failure

/-- The arguments of `env` with those that `-S` gives in one. -/
def splitArguments : List String → List String
  | "-S" :: text :: rest => (Text.splitAtChar ' ' text).filter (!·.isEmpty) ++ rest
  | argument :: rest =>
    match argument.toList with
    | '-' :: 'S' :: text =>
      (Text.splitAtChar ' ' (String.ofList text)).filter (!·.isEmpty) ++ rest
    | _ => argument :: rest
  | [] => []

/-- Takes the assignments in front of arguments in; gives the program and its arguments. -/
def takeAssignments : List String → Run (List String)
  | [] => return []
  | argument :: rest => do
    match Text.breakOn ['='] argument.toList with
    | none => return argument :: rest
    | some (name, value) =>
      let given : Variable := { value? := some (String.ofList value), isExported := true }
      changeProcess fun p => p.changeVariable (String.ofList name) fun _ => given
      takeAssignments rest

/-- The length of time that an argument gives, in milliseconds. -/
def duration? (text : String) : Option Nat :=
  match leadingFloat? text.toList with
  | none => none
  | some (x, rest) =>
    let factor? : Option Float := match rest with
      | [] | ['s'] => some 1000
      | ['m'] => some 60000
      | ['h'] => some 3600000
      | ['d'] => some 86400000
      | _ => none
    if x < 0 || x.isNaN then none else factor?.map fun factor => (x * factor).toUInt64.toNat

/-- Lets time pass. -/
def passTime (milliseconds : Nat) : Step Unit := do
  let s ← get
  let stop := s.clock + milliseconds
  match s.deadline.filter (· < stop) with
  | some deadline =>
    set { s with clock := deadline }
    throw .expired
  | none => set { s with clock := stop }

/-- Waits, while shells in the background go on. -/
def sleep (run : Runner) (tool : String) (arguments : List String) : Step Nat := do
  if arguments.isEmpty then
    complainOfUsage tool "missing operand"
    return 1
  let durations := arguments.map fun a => (a, duration? a)
  for (argument, d?) in durations do
    if d?.isNone then complain (tool ++ ": invalid time interval " ++ quoted argument)
  if durations.any fun d => d.2.isNone then
    complainOfUsage tool ""
    return 1
  let total := durations.foldl (fun sum d => sum + d.2.getD 0) 0
  let s ← get
  finishJobs run (fun _ => true) (some (s.clock + total)) (s.jobs.length + 1)
  passTime total
  return 0

/-- Prints the variables that a program is given, or the values of some. -/
def printVariables (names : List String) : Run Nat := do
  let environment := (← get).environment
  if names.isEmpty then
    for v in environment do out (v.1 ++ "=" ++ v.2 ++ "\n")
    return 0
  let mut status := 0
  for name in names do
    match Table.find? name environment with
    | some value => out (value ++ "\n")
    | none => status := 1
  return status

/-- What a tool says of a program that cannot be started, and the status that it gives. -/
def sayUnstarted (tool front program : String) (fault : FileFault) : Run Nat := do
  complain (tool ++ ": " ++ front ++ quoted program ++ ": " ++ fault.text)
  return if fault = .notFound || fault = .notADirectory then 127 else 126

/-- Runs a program with other variables. -/
def envTool (start : Starter) (tool : String) (arguments : List String) : Step Nat := do
  let table := OptionTable.ofText "iu:0C:v"
    [("ignore-environment", 'i'), ("unset", 'u'), ("null", '0'), ("chdir", 'C'),
      ("debug", 'v')] true
  match table.read (splitArguments arguments) with
  | .error why =>
    complainOfUsage tool why
    return 125
  | .ok o =>
    let isBare := o.has 'i' || o.operands.head? = some "-"
    let operands := if o.operands.head? = some "-" then o.operands.tail else o.operands
    if isBare then changeProcess fun p => { p with variablesByName := [] }
    for name in o.values 'u' do unsetVariable name
    match ← takeAssignments operands with
    | [] => printVariables []
    | program :: rest =>
      if let some path := o.value? 'C' then
        match (← get).files.locate (toText path) with
        | .ok (place, .directory _) =>
          modify fun s => { s with files := { s.files with current := place } }
        | .ok _ | .error _ =>
          complain (tool ++ ": cannot change directory to " ++ quoted path
            ++ ": No such file or directory")
          return 125
      start program rest

/-- Runs a program for no longer than a time. -/
def timeoutTool (start : Starter) (tool : String) (arguments : List String) : Step Nat := do
  let table := OptionTable.ofText "k:s:vp"
    [("kill-after", 'k'), ("signal", 's'), ("verbose", 'v'), ("preserve-status", 'p'),
      ("foreground", 'v')] true
  match table.read arguments with
  | .error why =>
    complainOfUsage tool why
    return 125
  | .ok o =>
    match o.operands with
    | time :: program :: rest =>
      match duration? time with
      | none =>
        complainOfUsage tool ("invalid time interval " ++ quoted time)
        return 125
      | some milliseconds =>
        let before ← get
        let own := before.clock + milliseconds
        let deadline := match before.deadline with
          | some d => if milliseconds = 0 then d else min d own
          | none => own
        let isBounded := before.deadline.isSome || milliseconds ≠ 0
        set { before with deadline := if isBounded then some deadline else none }
        match ← attempt (start program rest) with
        | .inr status =>
          modify fun s => { s with deadline := before.deadline }
          return status
        | .inl ending =>
          modify fun s => { s with deadline := before.deadline }
          if ending = .expired && before.deadline.all fun d => own < d then
            return if (o.value? 's').bind Signal.ofName? = some 9 then 137 else 124
          else throw ending
    | _ =>
      complainOfUsage tool ""
      return 125

/-- Splits the text of arguments at blanks; quotation marks and backslashes protect. -/
def splitQuoted : Nat → Option (List Char) → List Char → List String
  | 0, _, _ => []
  | _, word, [] => (word.map fun w => String.ofList w.reverse).toList
  | fuel + 1, word, c :: cs =>
    let started := word.getD []
    if c = '\\' then
      match cs with
      | d :: cs => splitQuoted fuel (some (d :: started)) cs
      | [] => splitQuoted fuel (some started) []
    else if c = '\'' || c = '"' then
      let inner := cs.takeWhile (· ≠ c)
      splitQuoted fuel (some (inner.reverse ++ started)) (cs.drop (inner.length + 1))
    else if Arithmetic.isBlank c then
      (word.map fun w => String.ofList w.reverse).toList ++ splitQuoted fuel none cs
    else splitQuoted fuel (some (c :: started)) cs

/-- Splits a list in pieces of a size. -/
def inPieces {α : Type} (size : Nat) : Nat → List α → List (List α)
  | 0, _ => []
  | fuel + 1, items =>
    if items.isEmpty then [] else items.take size :: inPieces size fuel (items.drop size)

/-- Starts programs one after another; gives the status for all of them. -/
def startEach (start : Starter) (status : Nat) : List (List String) → Step Nat
  | [] => return status
  | words :: more => do
    let found ← start (words.headD "echo") words.tail
    if found = 126 || found = 127 then return found
    else if found = 255 then return 124
    else startEach start (if found = 0 then status else 123) more

/-- Starts programs with arguments from the standard input. -/
def xargsTool (start : Starter) (tool : String) (arguments : List String) : Step Nat := do
  let table := OptionTable.ofText "0n:I:L:d:rtpP:s:xa:E:i::l::e::"
    [("null", '0'), ("max-args", 'n'), ("replace", 'i'), ("max-lines", 'l'), ("delimiter", 'd'),
      ("no-run-if-empty", 'r'), ("verbose", 't'), ("max-procs", 'P'), ("arg-file", 'a')] true
  match table.read arguments with
  | .error why =>
    complainOfUsage tool why
    return 1
  | .ok o =>
    let found ← match o.value? 'a' with
      | some path => readPath path 0
      | none => readStandard 0
    match found with
    | .error _ => return 1
    | .ok a =>
      if !a.isWhole then
        starve
        throw .suspended
      let command := if o.operands.isEmpty then ["echo"] else o.operands
      let chars := charsOf a.bytes
      let cutBy (mark : Char) : List String :=
        let (items, rest) := cutAt mark.toNat.toUInt8 a.bytes
        (items ++ if rest.isEmpty then [] else [rest]).map String.ofList
      let replaced? :=
        (o.value? 'I').or (if o.has 'i' then some ((o.value? 'i').getD "\x7b\x7d") else none)
      let mark? := if o.has '0' then some '\x00'
        else (o.value? 'd').map fun d => ((Escape.replaced d.toList).1.head?).getD '\n'
      let items : List String := match mark?, replaced? with
        | some mark, _ => cutBy mark
        | none, some _ =>
          ((cutBy '\n').map fun line =>
            String.ofList (line.toList.dropWhile Arithmetic.isBlank)).filter (!·.isEmpty)
        | none, none => splitQuoted (chars.length + 1) none chars
      let lines := (o.value? 'L').or (o.value? 'l')
      let groups : List (List String) := match replaced? with
        | some mark =>
          items.map fun item => command.map fun word => Text.replaceAll mark item word
        | none =>
          match lines.bind natOf? with
          | some count =>
            let texts := (cutBy '\n').filter fun line => !line.toList.all Arithmetic.isBlank
            (inPieces (max 1 count) (texts.length + 1) texts).map fun group =>
              command ++ group.flatMap fun line => splitQuoted (line.length + 1) none line.toList
          | none =>
            match (o.value? 'n').bind natOf? with
            | some count =>
              if items.isEmpty && !o.has 'r' then [command]
              else (inPieces (max 1 count) (items.length + 1) items).map (command ++ ·)
            | none => if items.isEmpty && o.has 'r' then [] else [command ++ items]
      if o.has 't' then
        for group in groups do complain (" ".intercalate group)
      startEach start 0 groups

/-- A tool that starts another program by its name. -/
def startingTool? (run : Runner) (start : String → Starter) (name : String) :
    Option (String → List String → Step Nat) :=
  match name with
  | "sleep" => some (sleep run)
  | "env" => some fun tool => envTool (start tool) tool
  | "timeout" => some fun tool => timeoutTool (start tool) tool
  | "xargs" => some fun tool => xargsTool (start tool) tool
  | "find" => some fun tool => findTool (start tool) tool
  | "nohup" | "nice" | "stdbuf" => some fun tool arguments =>
    let arguments := match arguments with
      | "-n" :: _ :: rest => rest
      | arguments => arguments.dropWhile fun a => a.startsWith "-"
    match arguments with
    | program :: rest => start tool program rest
    | [] => do
      complainOfUsage tool "missing operand"
      return 125
  | "printenv" => some fun _ arguments => printVariables arguments
  | _ => none

/-- Runs a tool in a process of its own. -/
def runTool (run : Runner) : Nat → Launch → Step Unit
  | 0, _ => exitWith 126
  | _ + 1, .commands path arguments => shellOnFile run path path arguments []
  | depth + 1, .tool name calledAs arguments => do
    let start (tool : String) (program : String) (rest : List String) : Step Nat := do
      let s ← get
      match Launch.find s.files (s.valueOf? "PATH") program rest with
      | .ok launch =>
        isolated (runTool run depth launch)
        suspendIfStuck
        return (← get).status % 256
      | .error fault => sayUnstarted tool "" program fault
    if ["sh", "dash", "bash"].contains name then shellTool run calledAs arguments
    else if arguments = ["--version"] && name ≠ "echo" && name ≠ "printf" && name ≠ "test" then
      out (name ++ "\n")
      setStatus (if name = "false" then 1 else 0)
    else
      let status ← match startingTool? run start name with
        | some act => act calledAs arguments
        | none =>
          match tool? name with
          | some act => act calledAs arguments
          | none => if name = "pwd" then sayDirectory arguments else pure 127
      let s ← get
      match s.writeFault with
      | none => setStatus status
      | some fault =>
        set { s with writeFault := none }
        setStatus (← sayUnwritten name calledAs fault status)
    suspendIfStuck

/-! ## Programs -/

/-- Runs a program apart from the shell that starts it. -/
def runApart (run : Runner) (launch : Launch) : Step Unit := do
  let s ← get
  let process := s.nextProcess
  let ending ← ending? (keepingDescriptors (isolated (runTool run 8 launch)))
  match ending with
  | some (.killed target signal) =>
    if target = process then
      if signal ≠ 2 && signal ≠ 13 then complain (Signal.description signal)
      setStatus (128 + signal)
    else throw (.killed target signal)
  | some ending => throw ending
  | none => modify fun s => { s with status := s.status % 256 }

/-- Starts a program by its name, or says why that fails. -/
def runExternal (run : Runner) (searched : Option String) (name : String)
    (arguments : List String) : Step Unit := do
  let s ← get
  match Launch.find s.files searched name arguments with
  | .ok launch =>
    unless name.contains '/' do
      if let some path := searchPath? s.files searched name then rememberPath name path
    runApart run launch
  | .error fault =>
    let isMissing := fault = .notFound || fault = .notADirectory
    complainHere (name ++ ": " ++ if isMissing then "not found" else fault.text)
    setStatus (if isMissing || name.isEmpty then 127 else 126)

end LayerNet.Shell
