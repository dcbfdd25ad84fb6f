import LayerNet.Shell.Builtins.Variables
import LayerNet.Shell.Grammar
import LayerNet.Signal

/-!
# Scripts

A script is read and carried out one line after another, in the shell that runs or in one inside of
it.  Functions here are given how to carry out a command.

Main definitions:

- `runText`: carries out a script.
- `wholeShell`, `innerShell`: shells with what is to be done at their end.
- `capture`: the output of a script.
- `takeSignals`: what signals do that were sent.
-/

namespace LayerNet.Shell

/-- How a command is carried out. -/
abbrev Runner := Command → Step Unit

/-! ## Reading and carrying out -/

/-- Carries out commands one after another. -/
def runEach (run : Runner) : List Command → Step Unit
  | [] => return ()
  | command :: commands => do
    run command
    runEach run commands

/-- Carries out what is to be read, one line after another. -/
def runReader (run : Runner) : Nat → Reader → Step Unit
  | 0, _ => return ()
  | fuel + 1, reader => do
    let s ← get
    let reader := { reader with aliases := s.aliases, documents := s.documents }
    match readComplete.run reader with
    | .error fault =>
      modify fun s => { s with line := fault.line }
      failHere ("Syntax error: " ++ fault.text)
    | .ok (commands?, rest) =>
      if s.options.contains 'v' then
        let read := reader.input.take (reader.input.length - rest.input.length)
        writeBytes 2 (bytesOf read)
      modify fun s => { s with documents := rest.documents }
      match commands? with
      | none => return ()
      | some commands =>
        runEach run commands
        runReader run fuel rest

/-- Carries out a script. -/
def runText (run : Runner) (text : List Char) : Step Unit :=
  runReader run (text.length + 2) { input := text, line := 1 }

/-! ## Shells -/

/-- Carries out what is to be done at the end of a shell. -/
def runExitTrap (run : Runner) : Step Unit := do
  let s ← get
  if let some action := atNumber? 0 s.traps then
    set { s with traps := s.traps.filter fun t => t.1 != 0 }
    match ← ending? (runText run action.toList) with
    | some .exits => return ()
    | ending =>
      setStatus s.status
      resume (ending.filter Ending.leavesShell)

/-- A step of a shell of its own, with what is to be done at its end. -/
def wholeShell (run : Runner) (act : Step Unit) : Step Unit := do
  match ← ending? act with
  | some ending => if ending.leavesShell then throw ending else runExitTrap run
  | none => runExitTrap run

/-- What a shell inside of another one has of its traps: those that pass over a signal. -/
def innerTraps (traps : List (Nat × String)) : List (Nat × String) :=
  traps.filter fun t => t.2.isEmpty

/-- A step of a shell inside of another one. -/
def innerShell (run : Runner) (act : Step Unit) : Step Unit :=
  isolated do
    changeProcess fun p => { p with traps := innerTraps p.traps }
    wholeShell run act

/-- A step whose status is tested. -/
def whileTested (act : Step Unit) : Step Unit := do
  let before := (← get).isTested
  modify fun s => { s with isTested := true }
  let ending ← ending? act
  modify fun s => { s with isTested := before }
  resume ending

/-- Ends the shell if a failure ends it and the status is one that nobody tests. -/
def endOnFailure : Step Unit := do
  let s ← get
  if s.status ≠ 0 && s.options.contains 'e' && !s.isTested then throw .exits

/-! ## Signals -/

/-- What a signal does that was sent to the shell which runs. -/
def takeSignal (run : Runner) (signal : Nat) : Step Unit := do
  let s ← get
  match if Signal.canBeHandled signal then atNumber? signal s.traps else none with
  | some action =>
    unless action.isEmpty do
      let status := s.status
      runText run action.toList
      setStatus status
  | none => if Signal.ends signal then throw (.killed s.own signal)

/-- What the signals do that were sent to the shell which runs. -/
def takeSignals (run : Runner) : Step Unit := do
  let s ← get
  unless s.sent.isEmpty do
    let own := s.sent.filter fun signal => signal.1 = s.own
    set { s with sent := s.sent.filter fun signal => signal.1 ≠ s.own }
    for (_, signal) in own do takeSignal run signal

/-! ## Background -/

/-- A shell in the background as it ends: how, when, and the state behind it. -/
structure Finished where
  outcome : JobEnd
  time : Nat
  state : State
  /-- whether it would go on behind the deadline -/
  isCut : Bool

/-- Carries out a shell in the background up to a deadline.  While it runs it is none of the shells
that are waited for, so that it does not wait for itself. -/
def Job.finish (run : Runner) (job : Job) (deadline : Option Nat) (before : State) : Finished :=
  let others := before.jobs.filter fun other => other.process ≠ job.process
  let begun : State :=
    { before with
      toProcess := job.shell
      jobs := others
      files := { before.files with current := job.directory }
      clock := job.startedAt
      deadline }
  let (ending, s) := (ending? (wholeShell run (run job.script))).run begun
  let outcome : JobEnd := match ending with
    | some (.killed _ signal) => .killed signal
    | _ => .exited (s.status % 256)
  let (older, newer) := s.jobs.partition fun other => other.process < job.process
  let state : State :=
    { s with
      toProcess := before.toProcess
      jobs := older ++ job :: newer
      files := { s.files with current := before.files.current }
      clock := before.clock
      deadline := before.deadline }
  { outcome, time := s.clock, state, isCut := ending = some .expired }

/-- The job as it ended. -/
def Job.ended (job : Job) (outcome : JobEnd) : Job :=
  { job with outcome? := some outcome }

/-- Changes the jobs of a number. -/
def changeJob (process : Nat) (change : Job → Job) : Run Unit :=
  modify fun s =>
    { s with jobs := s.jobs.map fun job => if job.process = process then change job else job }

/-- The shell in the background that ends first of those that have not ended. -/
def firstFinished (run : Runner) (wanted : Job → Bool) (deadline : Option Nat) (s : State) :
    Option (Job × Finished) :=
  let pending := s.jobs.filter fun job => job.outcome?.isNone && wanted job
  let found := (pending.map fun job => (job, job.finish run deadline s)).filter fun f => !f.2.isCut
  found.foldl
    (fun best f =>
      match best with
      | some b => if f.2.time < b.2.time then some f else best
      | none => some f)
    none

/-- Lets shells in the background end, those that end first in front. -/
def finishJobs (run : Runner) (wanted : Job → Bool) (deadline : Option Nat) :
    Nat → Step Unit
  | 0 => return ()
  | fuel + 1 => do
    match firstFinished run wanted deadline (← get) with
    | none => return ()
    | some (job, finished) =>
      set finished.state
      changeJob job.process fun job => job.ended finished.outcome
      if deadline.isNone then modify fun s => { s with clock := max s.clock finished.time }
      suspendIfStuck
      finishJobs run wanted deadline fuel

/-- Lets all shells in the background end that are wanted. -/
def finishAll (run : Runner) (wanted : Job → Bool) : Step Unit := do
  finishJobs run wanted none ((← get).jobs.length + 100)

/-! ## Output of scripts -/

/-- A step whose standard output is kept in memory, of which no more than a limit is wanted.  What
it starts in the background ends before.  Gives the channel with the output. -/
def collected (run : Runner) (limit : Option Nat) (act : Step Unit) :
    Step (Nat × Option Ending) := do
  let s ← get
  let known := s.jobs.map Job.process
  let index := s.channels.size
  let descriptors := s.descriptors
  leadTo 1 (.output .empty limit)
  let ending ← ending? do
    act
    finishAll run fun job => !known.contains job.process
  modify fun s => { s with descriptors }
  return (index, ending)

/-- The bytes that a channel keeps. -/
def State.kept (s : State) (channel : Nat) : ByteArray :=
  match s.channels[channel]? with
  | some (.output written _) => written
  | _ => .empty

/-- The output of a script, less the ends of lines at its end. -/
def capture (run : Runner) (script : Command) : Step String := do
  let before := (← get).status
  let (channel, ending) ← collected run none (innerShell run (run script))
  resume ending
  let s ← get
  let bytes := (s.kept channel).toList.filter (· ≠ 0)
  set { s with substituted := s.status, status := before }
  return ofBytes (bytes.reverse.dropWhile (· = 10)).reverse

end LayerNet.Shell
