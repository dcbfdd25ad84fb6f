import LayerNet.Shell.Ending
import LayerNet.Shell.Escapes
import LayerNet.Shell.Expansion
import LayerNet.Shell.Lookup

/-!
# Commands of the shell itself

What the commands have in common that a shell carries out on its own: how their options are read,
and numbers in their arguments.

Main definitions:

- `Builtin`: a command of the shell.
- `shellOptions`: the options and operands of such a command.
- `numberArgument`: a number in an argument.
-/

namespace LayerNet.Shell

/-- A command of the shell: from its arguments to its status. -/
abbrev Builtin := List String → Step Nat

/-- Reads the options of a command, of which the letters followed by a colon have values, and its
operands; `given` are those before, in reverse. -/
def shellOptionsFrom (letters : List Char) (given : List (Char × Option String)) :
    Nat → List String → Step (List (Char × Option String) × List String)
  | 0, arguments => return (given.reverse, arguments)
  | _, [] => return (given.reverse, [])
  | fuel + 1, argument :: rest => do
    match argument.toList with
    | ['-', '-'] => return (given.reverse, rest)
    | '-' :: c :: cs =>
      match letters.dropWhile (· ≠ c) with
      | [] => failHere ("Illegal option -" ++ String.singleton c)
      | _ :: ':' :: _ =>
        match cs, rest with
        | [], [] => failHere ("No arg for -" ++ String.singleton c ++ " option")
        | [], value :: rest =>
          shellOptionsFrom letters ((c, some value) :: given) fuel rest
        | cs, rest =>
          shellOptionsFrom letters ((c, some (String.ofList cs)) :: given) fuel rest
      | _ =>
        let rest := if cs.isEmpty then rest else String.ofList ('-' :: cs) :: rest
        shellOptionsFrom letters ((c, none) :: given) fuel rest
    | _ => return (given.reverse, argument :: rest)

/-- The options of a command, of which the letters followed by a colon have values, and its
operands. -/
def shellOptions (letters : String) (arguments : List String) :
    Step (List (Char × Option String) × List String) :=
  let size := arguments.foldl (fun n a => n + a.length + 1) 1
  shellOptionsFrom letters.toList [] size arguments

/-- Whether an option is among those given. -/
def isGiven (given : List (Char × Option String)) (letter : Char) : Bool :=
  given.any fun g => g.1 == letter

/-- The number that digits alone write in an argument. -/
def numberArgument (text : String) : Step Nat := do
  match Arithmetic.integer? text.toList with
  | some n =>
    if 0 ≤ n && n < Nat.pow 2 31 then return n.toNat
    else failHere ("Illegal number: " ++ text)
  | none => failHere ("Illegal number: " ++ text)

/-- The name and the value in an argument such as `name=value`. -/
def nameAndValue (argument : String) : String × Option String :=
  match Text.breakOn ['='] argument.toList with
  | some (name, value) => (String.ofList name, some (String.ofList value))
  | none => (argument, none)

/-- Refuses a text that is no name of a variable. -/
def checkName (name : String) : Step Unit := do
  unless Word.isName name do failHere (name ++ ": bad variable name")

/-- Writes the variables that have a flag, with the name of the command that sets it in front; those
without a value only if they are wanted. -/
def listVariables (front : String) (withoutValue : Bool) (test : Variable → Bool) : Run Unit := do
  for (name, v) in (← get).variablesByName do
    if test v then
      match v.value? with
      | some value => out (front ++ name ++ "=" ++ singleQuoted value ++ "\n")
      | none => if withoutValue then out (front ++ name ++ "\n")

end LayerNet.Shell
