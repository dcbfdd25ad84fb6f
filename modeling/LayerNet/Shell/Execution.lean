import LayerNet.Shell.Jobs
import LayerNet.Shell.Starting

/-!
# Execution of shell scripts

A command is carried out by functions that are given how to carry out the commands inside of it.

Main definitions:

- `runSimple`: carries out a simple command.
- `runPipeline`: carries out the stages of a pipeline.
- `carryOut`: carries out a command.
-/

namespace LayerNet.Shell

/-! ## Ends -/

/-- Ends the shell with the status that is given, or with the last one. -/
def exitShell : Builtin := fun arguments => do
  match arguments with
  | [] => throw .exits
  | text :: _ => exitWith (← numberArgument text)

/-- Leaves the function or the file of commands that runs. -/
def returnFrom : Builtin := fun arguments => do
  if let text :: _ := arguments then setStatus (← numberArgument text)
  throw .returns

/-- Leaves loops, or goes on with their next round. -/
def leaveLoops (ending : Nat → Ending) : Builtin := fun arguments => do
  let levels ← match arguments with
    | [] => pure 1
    | text :: _ =>
      let n ← numberArgument text
      if n = 0 then failHere ("Illegal number: " ++ text)
      pure n
  setStatus 0
  let loops := (← get).loops
  if loops = 0 then return 0
  throw (ending (min levels loops))

/-! ## Commands that carry out scripts -/

/-- Carries out the body of a function. -/
def callFunction (run : Runner) (body : Command) (arguments : List String) : Step Unit := do
  let before ← get
  set { before with
    arguments, loops := 0, depth := before.depth + 1, optionIndex := 1, optionPlace := 0 }
  let ending ← ending? (run body)
  modify fun s =>
    { s with
      arguments := before.arguments, loops := before.loops, depth := before.depth
      optionIndex := before.optionIndex, optionPlace := before.optionPlace }
  match ending with
  | some .returns => return ()
  | ending => resume ending

/-- Carries out arguments as a script. -/
def evaluateScript (run : Runner) : Builtin := fun arguments => do
  let arguments := if arguments.head? = some "--" then arguments.tail else arguments
  let line := (← get).line
  setStatus 0
  runText run (" ".intercalate arguments).toList
  modify fun s => { s with line }
  return (← get).status

/-- Carries out the commands of a file in this shell. -/
def runSourced (run : Runner) : Builtin := fun arguments => do
  let (_, operands) ← shellOptions "" arguments
  match operands with
  | [] => return 0
  | name :: _ =>
    let s ← get
    let path? := if name.contains '/' then some name
      else
        (candidatePaths (s.valueOf? "PATH") name).find? fun p => s.files.isFile (toText p)
    let some path := path? | failHere (name ++ ": not found")
    match ← openForReading path with
    | .error fault => failHere ("cannot open " ++ path ++ ": " ++ openFault "No such file" fault)
    | .ok _ =>
      let content := match ← readPath path 0 with
        | .ok a => a.bytes
        | .error _ => []
      setStatus 0
      modify fun s => { s with command := some path }
      match ← ending? (runText run (charsOf content)) with
      | none | some .returns => return (← get).status
      | some ending => throw ending

/-- Replaces the shell by a program. -/
def replaceShell (run : Runner) : Builtin := fun arguments => do
  let arguments := if arguments.head? = some "--" then arguments.tail else arguments
  match arguments with
  | [] => return 0
  | program :: rest =>
    changeProcess fun p => { p with traps := innerTraps p.traps }
    runExternal run ((← get).valueOf? "PATH") program rest
    throw .exits

/-- Says what a name leads to; else it does nothing. -/
def explainCommand : Builtin := fun arguments => do
  let (given, operands) ← shellOptions "pvV" arguments
  match operands with
  | name :: _ =>
    if isGiven given 'V' || isGiven given 'v' then describe (isGiven given 'V') name else return 0
  | [] => return 0

/-- The command of a shell that has a name. -/
def builtin? (run : Runner) (name : String) : Option Builtin :=
  match name with
  | ":" | "true" => some fun _ => return 0
  | "false" => some fun _ => return 1
  | "." => some (runSourced run)
  | "[" => some fun arguments => shellTest true arguments
  | "alias" => some setAliases
  | "bg" => some (bringJob run false)
  | "break" => some (leaveLoops .leavesLoops)
  | "cd" | "chdir" => some changeDirectory
  | "command" => some explainCommand
  | "continue" => some (leaveLoops .nextRound)
  | "echo" => some echo
  | "eval" => some (evaluateScript run)
  | "exec" => some (replaceShell run)
  | "exit" => some exitShell
  | "export" => some exportVariables
  | "fg" => some (bringJob run true)
  | "getopts" => some nextOption
  | "hash" => some noteFound
  | "jobs" => some listJobs
  | "kill" => some (sendSignal run)
  | "local" => some makeLocal
  | "printf" => some printFormatted
  | "pwd" => some sayDirectory
  | "read" => some readLine
  | "readonly" => some makeConstants
  | "return" => some returnFrom
  | "set" => some setShell
  | "shift" => some shiftArguments
  | "test" => some fun arguments => shellTest false arguments
  | "times" => some sayTimes
  | "trap" => some setTraps
  | "type" => some sayTypes
  | "ulimit" => some sayLimit
  | "umask" => some changeMask
  | "unalias" => some unsetAliases
  | "unset" => some unsetNames
  | "wait" => some (waitForJobs run)
  | _ => none

/-! ## Simple commands -/

/-- Carries out a command of the shell; a fault in it ends the shell if the command is special. -/
def runBuiltin (act : Builtin) (special : Bool) (name : String) (arguments : List String) :
    Step Unit := do
  let before := (← get).command
  modify fun s => { s with command := some name }
  let result ← attempt (act arguments)
  let isUnwritten := (← get).writeFault.isSome
  if isUnwritten then
    complainHere (name ++ ": I/O error")
    modify fun s => { s with writeFault := none }
  modify fun s => { s with command := before }
  match result with
  | .inr status => setStatus (if isUnwritten then status ||| 1 else status)
  | .inl .failed => if special then throw .failed else setStatus 2
  | .inl ending => throw ending
  suspendIfStuck

/-- The words of a simple command: whether the command is looked for behind `command`, in the usual
search path, and the words themselves. -/
structure CommandWords where
  isPlain : Bool := false
  usualPath : Bool := false
  words : List String := []

/-- Words without those in front that only say how to look for a command. -/
def CommandWords.take (usualPath isPlain : Bool) : List String → CommandWords
  | "command" :: rest =>
    let (options, words) := (rest.takeWhile (· = "-p"), rest.dropWhile (· = "-p"))
    let words := if words.head? = some "--" then words.tail else words
    match words with
    | [] => ⟨isPlain, usualPath, "command" :: rest⟩
    | word :: more =>
      if word.startsWith "-" then ⟨isPlain, usualPath, "command" :: rest⟩
      else if word = "command" then ⟨true, usualPath || !options.isEmpty, word :: more⟩
      else ⟨true, usualPath || !options.isEmpty, word :: more⟩
  | words => ⟨isPlain, usualPath, words⟩

/-- Whether the assignments among the words behind a command are not split. -/
def assignsBehind (first : List String) (rest : List Word) : Bool :=
  let names := first.map (·) ++ rest.filterMap Word.plain?
  match names.dropWhile fun n => n = "command" || n = "-p" || n = "--" with
  | name :: _ => assigningNames.contains name
  | [] => false

/-- The arguments that the words of a simple command stand for. -/
def expandCommand (capture : Command → Step String) : List Word → Step (List String)
  | [] => return []
  | word :: words => do
    match ← expandFields capture false [word] with
    | [] => expandCommand capture words
    | first => return first ++ (← expandFields capture (assignsBehind first words) words)

/-- Writes a command as it is carried out. -/
def trace (run : Runner) (assigned words : List String) : Step Unit := do
  let s ← get
  if s.options.contains 'x' then
    let front := (s.valueOf? "PS4").getD ""
    let reader : Reader := { input := front.toList, line := s.line }
    let parsed := (readParts { quotes := true, stop := .document ⟨0, [], false, false⟩
                               inDocument := true } 10000 []).run reader
    let front ← match parsed with
      | .ok (word, _) => expandText (capture run) .nowhere word
      | .error _ => pure front
    complain (front ++ " ".intercalate (assigned ++ words))

/-- Carries out a command that is given by its name and arguments. -/
def invoke (run : Runner) (w : CommandWords) (meaning : Meaning) (name : String)
    (arguments : List String) : Step Unit := do
  match meaning with
  | .function body => callFunction run body arguments
  | .program =>
    let path? := (← get).valueOf? "PATH"
    runExternal run (if w.usualPath then none else path?) name arguments
  | .special | .ordinary =>
    let isSpecial := match meaning with
      | .special => !w.isPlain
      | _ => false
    match builtin? run name with
    | some act => runBuiltin act isSpecial name arguments
    | none => setStatus 127

/-- Expands the assignments in front of a command and carries them out; gives them as they are
written when they are traced.  They hold for the command alone if they are `temporary`. -/
def assignInFront (run : Runner) (temporary exports : Bool) :
    List (String × Word) → Step (List String)
  | [] => return []
  | (name, word) :: more => do
    let value ← expandText (capture run) .colons word
    if temporary then noteOutside name
    assign name value
    if temporary || exports then
      changeProcess fun p => p.changeVariable name fun v => { v with isExported := true }
    return (name ++ "=" ++ value) :: (← assignInFront run temporary exports more)

/-- A step in a frame of its own for variables, if it needs one. -/
def framed (needed : Bool) (act : Step Unit) : Step Unit := do
  if needed then
    changeProcess fun p => { p with frames := [] :: p.frames }
    let ending ← ending? act
    leaveFrame
    resume ending
  else act

/-- Carries out a simple command. -/
def runSimple (run : Runner) (line : Nat) (assignments : List (String × Word))
    (words : List Word) (redirects : List Redirect) : Step Unit := do
  modify fun s => { s with line, substituted := 0 }
  let fields ← expandCommand (capture run) words
  let w := CommandWords.take false false fields
  let meaning := (← get).meaning (!w.isPlain) (w.words.headD "")
  let isSpecial := match meaning with
    | .special => !w.isPlain
    | _ => false
  match w.words with
  | [] =>
    let redirected : Step Unit := do
      let assigned ← assignInFront run false false assignments
      unless assigned.isEmpty do trace run assigned []
      modify fun s => { s with status := s.substituted }
    withRedirects run redirects false redirected
  | name :: arguments =>
    let temporary := !isSpecial
    let needsFrame := match meaning with
      | .function _ => true
      | _ => temporary && !assignments.isEmpty
    let isExec := name = "exec" && (match meaning with
      | .special => true
      | _ => false)
    let act : Step Unit := framed needsFrame do
      let assigned ← assignInFront run temporary (isExec && !arguments.isEmpty) assignments
      trace run assigned fields
      invoke run w meaning name arguments
    if isExec && arguments.isEmpty then
      match ← redirectAll run redirects with
      | none => act
      | some fault =>
        complainHere fault
        setStatus 2
        throw .failed
    else withRedirects run redirects isSpecial act
  takeSignals run
  suspendIfStuck
  endOnFailure

/-! ## Pipelines -/

/-- How many bytes of a stage are wanted at first, and in further attempts. -/
def attemptLimits : List Nat :=
  [4096, 65536, 1048576, 16777216]

/-- How the stages of a pipeline went: whether one of them wrote more than was wanted, and how the
last one ended. -/
structure PipelineRun where
  isCut : Bool
  ending : Option Ending

/-- Carries out the stages of a pipeline, each with the output of the one before as its input. -/
def runStages (run : Runner) (limit : Nat) (isCut : Bool) : List Command → Step PipelineRun
  | [] => return ⟨isCut, none⟩
  | [last] => do
    let ending ← ending? (innerShell run (run last))
    return ⟨isCut, ending⟩
  | stage :: rest => do
    let outer ← get
    let (channel, ending) ← collected run (some limit) (innerShell run (run stage))
    match ending with
    | some (.killed process signal) => throw (.killed process signal)
    | some .expired => throw .expired
    | _ => pure ()
    let s ← get
    let isWhole := !s.hasOverflown && !s.isStarved
    let bytes := (s.kept channel).toList
    set { s with
      hasOverflown := outer.hasOverflown
      isStarved := outer.isStarved
      channels := s.channels.set! channel (.device .null {}) }
    let before := s.descriptors
    leadTo 0 (.input bytes isWhole)
    let result ← attempt (runStages run limit (isCut || s.hasOverflown) rest)
    modify fun s => { s with descriptors := before }
    match result with
    | .inr found => return found
    | .inl ending => throw ending

/-- Carries out a pipeline.  If its last stage lacks an input that another one would have gone on to
write, all is tried again with more. -/
def runPipeline (run : Runner) (stages : List Command) : List Nat → Step Unit
  | [] => return ()
  | limit :: limits => do
    let before ← get
    let found ← runStages run limit false stages
    let s ← get
    if s.isStarved && found.isCut && !limits.isEmpty then
      set { before with endless := (limits.headD limit) }
      runPipeline run stages limits
      modify fun s => { s with endless := before.endless }
    else resume found.ending

/-! ## Loops -/

/-- One round of a loop; tells whether the loop goes on. -/
def runRound (act : Step Unit) : Step Bool := do
  match ← ending? act with
  | none => return true
  | some (.leavesLoops levels) =>
    if levels ≤ 1 then return false else throw (.leavesLoops (levels - 1))
  | some (.nextRound levels) =>
    if levels ≤ 1 then return true else throw (.nextRound (levels - 1))
  | some ending => throw ending

/-- A step inside of one more loop. -/
def insideLoop (act : Step Unit) : Step Unit := do
  let before := (← get).loops
  modify fun s => { s with loops := before + 1 }
  let ending ← ending? act
  modify fun s => { s with loops := before }
  resume ending

/-- Carries out rounds as long as the condition holds; `status` is the status of the last round. -/
def runRounds (condition body : Step Unit) (untilTrue : Bool) : Nat → Nat → Step Unit
  | 0, _ => do
    let s ← get
    throw (if s.deadline.isSome then .expired else .killed s.own 9)
  | rounds + 1, status => do
    suspendIfStuck
    let goesOn ← runRound (whileTested condition)
    if !goesOn then setStatus 0
    else if ((← get).status == 0) == untilTrue then setStatus status
    else if ← runRound body then runRounds condition body untilTrue rounds (← get).status
    else setStatus 0

/-- Carries out a round for each value of a variable. -/
def runForEach (body : Step Unit) (name : String) : List String → Step Unit
  | [] => return ()
  | value :: values => do
    assign name value
    if ← runRound body then runForEach body name values

/-- The most rounds of a loop, of one that may go on no longer than a while. -/
def mostRounds (isBounded : Bool) : Nat :=
  if isBounded then 20000 else 1000000

/-! ## Compound commands -/

/-- Carries out the first clause of which a pattern matches. -/
def runChoice (run : Runner) (value : List Char) : List (List Word × Command) → Step Unit
  | [] => setStatus 0
  | (patterns, body) :: clauses => do
    let mut found := false
    for word in patterns do
      if !found then found := (← expandPattern (capture run) word).matchesAll value
    if found then run body else runChoice run value clauses

/-- Carries out a command, given how those inside of it are carried out. -/
def carryOutBy (run : Runner) : Command → Step Unit
  | .simple line assignments words redirects => runSimple run line assignments words redirects
  | .pipeline stages => do
    runPipeline run stages attemptLimits
    takeSignals run
    endOnFailure
  | .negated command => do
    whileTested (run command)
    modify fun s => { s with status := if s.status = 0 then 1 else 0 }
  | .both first second => do
    whileTested (run first)
    if (← get).status = 0 then run second
  | .either first second => do
    whileTested (run first)
    if (← get).status ≠ 0 then run second
  | .sequence [] => setStatus 0
  | .sequence commands => runEach run commands
  | .background command => startJob command
  | .subshell line body redirects => do
    modify fun s => { s with line }
    innerShell run (withRedirects run redirects false (run body))
    takeSignals run
    endOnFailure
  | .redirected line command redirects => do
    modify fun s => { s with line }
    withRedirects run redirects false (run command)
  | .conditional condition thenBranch elseBranch => do
    whileTested (run condition)
    if (← get).status = 0 then run thenBranch else run elseBranch
  | .loop untilTrue condition body => do
    let rounds := mostRounds (← get).deadline.isSome
    insideLoop (runRounds (run condition) (run body) untilTrue rounds 0)
  | .forEach line name words body => do
    modify fun s => { s with line }
    let values ← match words with
      | some words => expandFields (capture run) false words
      | none => pure (← get).arguments
    setStatus 0
    insideLoop (runForEach (run body) name values)
  | .choice line word clauses => do
    modify fun s => { s with line }
    runChoice run (← expandText (capture run) .front word).toList clauses
  | .function name body => do
    changeProcess fun p => { p with functions := Table.insert name body p.functions }
    setStatus 0

/-- Carries out a command that is nested no deeper than `depth`; a shell that goes deeper is ended
by a signal. -/
def carryOut : Nat → Command → Step Unit
  | 0, _ => do throw (.killed (← get).own 11)
  | depth + 1, command => do
    unless (← get).options.contains 'n' do carryOutBy (carryOut depth) command

/-- How deep commands can be nested. -/
def maxDepth : Nat := 1000

end LayerNet.Shell
