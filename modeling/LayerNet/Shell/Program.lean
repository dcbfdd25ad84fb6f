import LayerNet.Program
import LayerNet.Shell.Execution

/-!
# A host with a shell

Programs as a shell starts them: a tool by its name, a file by the interpreter that it names.  This
is what the command line program runs on; everything else is said of any host, by the two laws that
are proved here for this one.

Main definitions:

- `surroundings`, `launch`: what a program starts in, and what it is started as.
- `start`: what comes of a run.
- `host`: a shell as what starts programs.
-/

namespace LayerNet.Shell

/-- The variables of a program, as a shell has them. -/
def givenVariables (p : Program) : Table Variable :=
  p.environment.map fun v => (fromText v.1, { value? := some (fromText v.2), isExported := true })

/-- The shell that starts a program: its input is read from descriptor 0, and what it writes to 1
and 2 is kept. -/
def surroundings (p : Program) (input : ByteArray) (files : FileSystem) : State where
  files
  channels := #[.input input.toList true, .output .empty none, .output .empty none]
  descriptors := [(0, 0), (1, 1), (2, 2)]
  name := fromText p.name
  number := firstNumber
  own := firstNumber
  variablesByName := givenVariables p

/-- What a program is started as; a file of commands that names no other program is not started. -/
def launch (p : Program) (arguments : List String) (files : FileSystem) : Except FileFault Launch :=
  if p.name.toList.contains '\x00' then .error (.other "nul byte found in provided data")
  else if p.name.isEmpty then .error .notFound
  else
    let searched := Table.find? "PATH" p.environment
    match Launch.find files searched (fromText p.name) (arguments.map fromText) with
    | .ok (.commands ..) => .error .notExecutable
    | result => result

/-- Carries out a program, and what it leaves in the background. -/
def carriedOut (launch : Launch) : Step Unit := do
  let run := carryOut maxDepth
  let ending ← ending? (runTool run 8 launch)
  let status := (← get).status
  let _ ← ending? (finishAll run fun _ => true)
  setStatus status
  resume ending

/-- Starts a program; gives why it cannot be started or what comes of it, and the files as it leaves
them. -/
def start (p : Program) (arguments : List String) (input : ByteArray) (files : FileSystem) :
    Except FileFault ProgramResult × FileSystem :=
  match launch p arguments files with
  | .error fault => (.error fault, files)
  | .ok launch =>
    let (ending, s) := (ending? (carriedOut launch)).run (surroundings p input files)
    let ending := match ending with
      | some (.killed _ signal) => ProgramEnd.signalled signal
      | _ => .exited (UInt8.ofNat s.status)
    let files := { s.files with current := files.current }
    (.ok ⟨ending, s.kept 1, s.kept 2⟩, files)

/-- A shell as what starts programs. -/
abbrev host : Host where
  start := start
  left_of_error h := by
    unfold start at h
    split at h
    · exact (Prod.mk.inj h).2.symm
    · cases (Prod.mk.inj h).1
  current_start p arguments input files := by
    unfold start
    split <;> rfl

end LayerNet.Shell
