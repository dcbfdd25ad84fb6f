import LayerNet.Shell.State

/-!
# Endings

A step of a shell either goes on with the next one or ends what surrounds it: a loop, a function, or
the whole shell.

Main definitions:

- `Ending`: what a step ends.
- `Step`: steps of a shell that may end what surrounds them.
- `isolated`: a step whose changes of the shell itself are taken back.
-/

namespace LayerNet.Shell

/-- What a step ends: the shell, with its status; the shell because of a fault, which a command may
catch; a process by a signal; a number of loops, rounds of them, or a function.  A step is suspended
if nobody wants what it would write, or if it lacks an input; it has expired if it would sleep past
its deadline. -/
inductive Ending where
  | exits
  | failed
  | killed (process signal : Nat)
  | leavesLoops (levels : Nat)
  | nextRound (levels : Nat)
  | returns
  | suspended
  | expired
deriving DecidableEq, Repr

/-- Steps of a shell that may end what surrounds them. -/
abbrev Step := ExceptT Ending Run

/-- Sets the status. -/
def setStatus (status : Nat) : Run Unit :=
  modify fun s => { s with status }

/-- Ends the shell with a status. -/
def exitWith {α : Type} (status : Nat) : Step α := do
  setStatus status
  throw .exits

/-- Complains and ends the shell, or the command that catches the fault. -/
def failHere {α : Type} (text : String) : Step α := do
  complainHere text
  setStatus 2
  throw .failed

/-- A step whose ending is kept apart. -/
def ending? (act : Step Unit) : Run (Option Ending) := do
  match ← act.run with
  | .ok () => return none
  | .error e => return some e

/-- A step whose ending, or else whose result, is kept apart. -/
def attempt {α : Type} (act : Step α) : Run (Ending ⊕ α) := do
  match ← act.run with
  | .ok a => return .inr a
  | .error e => return .inl e

/-- Goes on as an ending says. -/
def resume (ending : Option Ending) : Step Unit :=
  match ending with
  | none => return ()
  | some e => throw e

/-- Ends what runs if more was written than is wanted, or if an input lacks. -/
def suspendIfStuck : Step Unit := do
  let s ← get
  if s.hasOverflown || s.isStarved then throw .suspended

/-- Whether an ending reaches beyond the shell that it is for. -/
def Ending.leavesShell : Ending → Bool
  | .killed .. | .suspended | .expired => true
  | _ => false

/-- A step after which the descriptors are what they were. -/
def keepingDescriptors (act : Step Unit) : Step Unit := do
  let before := (← get).descriptors
  let ending ← ending? act
  modify fun s => { s with descriptors := before }
  resume ending

/-- A step of a process of its own, of which only the files, the channels and the status remain.  It
ends nothing that surrounds it, unless its ending reaches beyond shells. -/
def isolated (act : Step Unit) : Step Unit := do
  let before ← get
  set { before with own := before.nextProcess, nextProcess := before.nextProcess + 1 }
  let ending ← ending? act
  modify fun s =>
    { s with
      toProcess := { before.toProcess with status := s.status }
      files := { s.files with current := before.files.current } }
  match ending.filter Ending.leavesShell with
  | some ending => throw ending
  | none => return ()

end LayerNet.Shell
