import LayerNet.Shell.Builtins.Basic
import LayerNet.Shell.Scripts

/-!
# Shells in the background

A shell in the background is carried out when it is waited for, when time passes, or when the shell
that started it ends.

Main definitions:

- `startJob`: starts a shell in the background.
- `waitForJobs`, `listJobs`: `wait` and `jobs`.
- `sendSignal`: `kill`.
- `setTraps`: `trap`.
-/

namespace LayerNet.Shell

/-! ## Starting -/

/-- Starts a shell in the background, which reads nothing. -/
def startJob (script : Command) : Run Unit := do
  let s ← get
  let process := s.nextProcess
  let mine := s.jobs.filter fun job => job.starter = s.own
  let number := (mine.map Job.number).foldl max 0 + 1
  let channel := s.channels.size
  let descriptors := (0, channel) :: s.descriptors.filter fun d => d.1 != 0
  let shell : Process :=
    { s.toProcess with own := process, descriptors, traps := innerTraps s.traps }
  let job : Job :=
    { number, process, starter := s.own, script, shell
      directory := s.files.current, startedAt := s.clock }
  set { s with
    channels := s.channels.push (.device .null { reads := true })
    jobs := s.jobs ++ [job]
    nextProcess := process + 1
    lastBackground := some process
    status := 0 }

/-! ## Waiting -/

/-- The jobs of the shell that runs. -/
def State.ownJobs (s : State) : List Job :=
  s.jobs.filter fun job => job.starter = s.own

/-- The job that a text such as `%1` means. -/
def findJob (text : String) : Step Job := do
  let jobs := (← get).ownJobs
  let found := match text.toList.drop 1 with
    | [] | ['%'] | ['+'] => jobs.getLast?
    | ['-'] => jobs.dropLast.getLast?
    | cs =>
        if cs.all Char.isDigit then jobs.find? fun j => j.number = Decimal.natOfDigits cs else none
  match found with
  | some job => return job
  | none => failHere ("No such job: " ++ text)

/-- Says that a signal has ended a process. -/
def sayKilled (outcome : JobEnd) : Run Unit := do
  if let .killed signal := outcome then
    if signal ≠ 2 && signal ≠ 13 then complain (Signal.description signal)

/-- Waits for one process; gives its status. -/
def waitFor (run : Runner) (process : Nat) : Step Nat := do
  finishAll run fun job => job.process = process
  match (← get).ownJobs.find? fun job => job.process = process with
  | none => return 127
  | some job =>
    let outcome := job.outcome?.getD (.exited 0)
    sayKilled outcome
    return outcome.status

/-- Waits for shells in the background, for all if none are named. -/
def waitForJobs (run : Runner) : Builtin := fun arguments => do
  let (_, operands) ← shellOptions "" arguments
  let own := (← get).own
  if operands.isEmpty then
    finishAll run fun job => job.starter = own
    return 0
  let mut status := 127
  for operand in operands do
    let process ← if operand.startsWith "%" then
        pure (← findJob operand).process
      else numberArgument operand
    status ← waitFor run process
  return status

/-! ## Listing -/

/-- What is said of a job. -/
def Job.state (job : Job) : String :=
  match job.outcome? with
  | none => "Running"
  | some (.exited 0) => "Done"
  | some (.exited n) => "Done(" ++ Decimal.natText n ++ ")"
  | some (.killed signal) => Signal.description signal

/-- Lists the jobs of the shell; those that have ended are forgotten. -/
def listJobs : Builtin := fun arguments => do
  let (given, _) ← shellOptions "lp" arguments
  let s ← get
  let jobs := s.ownJobs.reverse
  for (job, i) in jobs.zipIdx do
    if isGiven given 'p' then out (Decimal.natText job.process ++ "\n")
    else
      let mark := if i = 0 then "+ " else if i = 1 then "- " else "  "
      let text := "[" ++ Decimal.natText job.number ++ "] " ++ mark
        ++ (if isGiven given 'l' then Decimal.natText job.process ++ " " else "") ++ job.state
      out (text ++ String.ofList (List.replicate (33 - text.length) ' ') ++ "\n")
  modify fun s =>
    { s with jobs := s.jobs.filter fun job => job.starter ≠ s.own || job.outcome?.isNone }
  return 0

/-- Refuses to bring a job to the front or to let it go on. -/
def bringJob (run : Runner) (waits : Bool) : Builtin := fun arguments => do
  match arguments with
  | [] =>
    if (← get).ownJobs.isEmpty then failHere "No current job"
    else failHere "job (null) not created under job control"
  | text :: _ =>
    let job ← findJob text
    if waits then waitFor run job.process else return 0

/-! ## Signals -/

/-- The name of a signal in a listing. -/
def signalName (signal : Nat) : String :=
  if signal = 16 then "16"
  else if 32 ≤ signal && signal ≤ 33 then Decimal.natText signal
  else if 34 ≤ signal then
    if signal = 34 then "RTMIN"
    else if signal ≤ 49 then "RTMIN+" ++ Decimal.natText (signal - 34)
    else if signal < 64 then "RTMAX-" ++ Decimal.natText (64 - signal)
    else "RTMAX"
  else (Signal.name? signal).getD (Decimal.natText signal)

/-- Lists the names of signals, or gives the one of a number or status. -/
def listSignals (operands : List String) : Step Nat := do
  match operands with
  | [] =>
    out "0\n"
    for i in List.range 64 do out (signalName (i + 1) ++ "\n")
    return 0
  | text :: _ =>
    let n ← numberArgument text
    let signal := if 128 < n then n - 128 else n
    if 0 < signal && signal ≤ 64 then
      out (signalName signal ++ "\n")
      return 0
    else failHere ("invalid signal number or exit status: " ++ text)

/-- Sends a signal to a process; tells whether there is one. -/
def sendTo (run : Runner) (process signal : Nat) : Step Bool := do
  let s ← get
  match s.jobs.find? fun job => job.process = process with
  | some job =>
    if job.outcome?.isNone && Signal.ends signal then
      let finished := job.finish run (some s.clock) s
      set finished.state
      let outcome : JobEnd := if finished.isCut then .killed signal else finished.outcome
      changeJob process fun job => job.ended outcome
    return true
  | none =>
    if process = 0 || process = s.own || process = s.number || process = s.parent then
      set { s with sent := s.sent ++ [(if process = 0 then s.own else process, signal)] }
      return true
    else return false

/-- What is said of the way that `kill` is used. -/
def killUsage : String :=
  "Usage: kill [-s sigspec | -signum | -sigspec] [pid | job]... or\nkill -l [exitstatus]"

/-- Sends a signal to processes, or lists signals. -/
def sendSignal (run : Runner) : Builtin := fun arguments => do
  if arguments.isEmpty then failHere killUsage
  let direct := match arguments with
    | first :: _ =>
      match first.toList with
      | '-' :: name => (Signal.ofName? (String.ofList name)).filter (· ≠ 0 || name = ['0'])
      | _ => none
    | [] => none
  let (given, operands) ← match direct with
    | some _ => pure ([], arguments.tail)
    | none => shellOptions "ls:" arguments
  if isGiven given 'l' then listSignals operands
  else
    let named := (given.filterMap Prod.snd).getLast?
    let signal ← match direct, named with
      | some signal, _ => pure signal
      | none, none => pure 15
      | none, some name =>
        match Signal.ofName? name with
        | some signal => pure signal
        | none => failHere ("invalid signal number or name: " ++ name)
    if operands.isEmpty then failHere killUsage
    let mut status := 0
    for operand in operands do
      let found ← if operand.startsWith "%" then do
          let _ ← findJob operand
          pure false
        else if operand.startsWith "-" then do
          let n ← numberArgument (String.ofList operand.toList.tail)
          sendTo run n signal
        else sendTo run (← numberArgument operand) signal
      unless found do
        complainHere "No such process\n"
        status := 1
    return status

/-- Says what runs on signals. -/
def sayTraps : Run Unit := do
  for (signal, action) in (← get).traps.mergeSort fun a b => a.1 ≤ b.1 do
    let name := if signal = 0 then "EXIT" else signalName signal
    out ("trap -- " ++ singleQuoted action ++ " " ++ name ++ "\n")

/-- Sets what runs on signals. -/
def setTraps : Builtin := fun arguments => do
  let (_, operands) ← shellOptions "" arguments
  if operands.isEmpty then sayTraps
  let isNumber (text : String) : Bool :=
    !text.isEmpty && text.toList.all Char.isDigit && (Signal.ofName? text).isSome
  let (action?, names) : Option String × List String := match operands with
    | [name] => (none, [name])
    | action :: names =>
      if isNumber action then (none, action :: names)
      else (if action = "-" then none else some action, names)
    | [] => (none, [])
  for name in names do
    match Signal.ofName? name with
    | none =>
      complain ("trap: " ++ name ++ ": bad trap")
      return 1
    | some signal =>
      changeProcess fun p =>
        let others := p.traps.filter fun t => t.1 != signal
        { p with traps := (action?.map fun a => (signal, a)).toList ++ others }
  return 0

end LayerNet.Shell
