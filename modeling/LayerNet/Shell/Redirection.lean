import LayerNet.Shell.Scripts

/-!
# Redirections

Descriptors are led elsewhere for the time of a command.

Main definitions:

- `redirect`: carries out a redirection, or says why it cannot.
- `withRedirects`: a step with redirections.
-/

namespace LayerNet.Shell

/-- What is said of a file that cannot be opened. -/
def openFault (missing : String) : FileFault → String
  | .notFound | .notADirectory => missing
  | fault => fault.text

/-- Whether a file is there that must not be emptied. -/
def State.isProtected (s : State) (path : String) : Bool :=
  s.options.contains 'C' && s.files.isFile (toText path)

/-- Leads a descriptor to where another one leads; gives what is to be said if that fails. -/
def copyDescriptor (descriptor source : Nat) : Run (Option String) := do
  let s ← get
  match atNumber? source s.descriptors with
  | some channel =>
    set (s.redirected descriptor channel)
    return none
  | none => return some (Decimal.natText source ++ ": Bad file descriptor")

/-- Leads a descriptor to a file; gives what is to be said if that fails. -/
def leadToFile (descriptor : Nat) (path what missing : String)
    (openIt : Run (Except FileFault Channel)) : Run (Option String) := do
  match descriptorOfPath? path with
  | some d =>
    if (atNumber? d (← get).descriptors).isSome then return ← copyDescriptor descriptor d
  | none => pure ()
  match ← openIt with
  | .ok channel =>
    leadTo descriptor channel
    return none
  | .error fault =>
      return some ("cannot " ++ what ++ " " ++ path ++ ": " ++ openFault missing fault)

/-- Carries out a redirection; gives what is to be said if that fails. -/
def redirect (run : Runner) : Redirect → Step (Option String)
  | .mk descriptor target => do
    match target with
    | .input path =>
      let path ← expandText (capture run) .front path
      leadToFile descriptor path "open" "No such file" (openForReading path)
    | .output path mode =>
      let path ← expandText (capture run) .front path
      if mode = .create && (← get).isProtected path then
        return some ("cannot create " ++ path ++ ": File exists")
      leadToFile descriptor path "create" "Directory nonexistent" (openForWriting path mode)
    | .copy word =>
      let text ← expandText (capture run) .front word
      match text.toList with
      | ['-'] =>
        closeDescriptor descriptor
        return none
      | [d] => if d.isDigit then copyDescriptor descriptor (d.toNat - 48) else failHere badNumber
      | _ => failHere badNumber
    | .document number =>
      let body := (← get).documents[number]?.getD []
      let text ← expandText (capture run) .nowhere body
      leadTo descriptor (.input (toBytes text) true)
      return none
where
  /-- What is said of a descriptor that is no digit. -/
  badNumber : String := "Syntax error: Bad fd number"

/-- Carries out redirections up to the first that fails. -/
def redirectAll (run : Runner) : List Redirect → Step (Option String)
  | [] => return none
  | r :: rs => do
    match ← redirect run r with
    | none => redirectAll run rs
    | fault => return fault

/-- A step with redirections, which are taken back at its end; it is left out if one of them fails,
which ends what runs if it `ends`. -/
def withRedirects (run : Runner) (redirects : List Redirect) (ends : Bool) (act : Step Unit) :
    Step Unit :=
  if redirects.isEmpty then act
  else
    keepingDescriptors do
      match ← redirectAll run redirects with
      | none => act
      | some fault =>
        complainHere fault
        setStatus 2
        if ends then throw .failed

end LayerNet.Shell
