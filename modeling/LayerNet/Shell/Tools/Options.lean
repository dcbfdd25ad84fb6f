import LayerNet.Shell.State

/-!
# Options of tools

Options are given by a letter behind a dash or by a name behind two.  Several letters may share a
dash, a name may be cut short as long as it is the only one, and options may stand behind operands.

Main definitions:

- `OptionTable`: the options that a tool knows.
- `Options`: options as they were given, with the operands.
- `OptionTable.read`: options from arguments, or what is wrong with them.
-/

namespace LayerNet.Shell

/-- Whether an option has a value: never, always, or only in the same argument. -/
inductive OptionValue where
  | never
  | always
  | attached
deriving DecidableEq, Repr

/-- The options that a tool knows: letters, and names with the letters that they stand for. -/
structure OptionTable where
  letters : List (Char × OptionValue)
  names : List (String × Char)
  /-- whether what follows the first operand is an operand as well -/
  stopsAtOperand : Bool := false

/-- Options as they were given, with their values, and operands. -/
structure Options where
  given : List (Char × Option String) := []
  operands : List String := []

namespace Options

/-- Whether an option is given. -/
def has (o : Options) (letter : Char) : Bool :=
  o.given.any fun g => g.1 == letter

/-- Whether one of several options is given. -/
def hasAny (o : Options) (letters : List Char) : Bool :=
  letters.any o.has

/-- The values of an option in the order in which they were given. -/
def values (o : Options) (letter : Char) : List String :=
  o.given.filterMap fun g => if g.1 == letter then g.2 else none

/-- The value of an option; of several the last. -/
def value? (o : Options) (letter : Char) : Option String :=
  (o.values letter).getLast?

/-- The last of several options that is given. -/
def last? (o : Options) (letters : List Char) : Option Char :=
  ((o.given.map Prod.fst).filter letters.contains).getLast?

end Options

namespace OptionTable

/-- A table from letters, of which those followed by a colon have a value and those followed by two
may have one, and from names with the letters that they stand for. -/
def ofText (letters : String) (names : List (String × Char) := [])
    (stopsAtOperand : Bool := false) :
    OptionTable :=
  { letters := readLetters letters.toList, names, stopsAtOperand }
where
  /-- The letters with what their values are. -/
  readLetters : List Char → List (Char × OptionValue)
    | c :: ':' :: ':' :: cs => (c, .attached) :: readLetters cs
    | c :: ':' :: cs => (c, .always) :: readLetters cs
    | c :: cs => (c, .never) :: readLetters cs
    | [] => []

/-- What the value of a letter is, if it is known. -/
def valueOf? (t : OptionTable) (letter : Char) : Option OptionValue :=
  (t.letters.find? fun l => l.1 == letter).map Prod.snd

/-- What is wrong with a letter that is not known. -/
def unknownLetter (letter : Char) : String :=
  "invalid option -- '" ++ String.singleton letter ++ "'"

/-- Reads the letters behind a dash; gives the options, in reverse, and the letter that waits for
its value. -/
def readGroup (t : OptionTable) (given : List (Char × Option String)) :
    List Char → Except String (List (Char × Option String) × Option Char)
  | [] => .ok (given, none)
  | c :: cs =>
    match t.valueOf? c with
    | none => .error (unknownLetter c)
    | some .never => t.readGroup ((c, none) :: given) cs
    | some .attached =>
      .ok ((c, if cs.isEmpty then none else some (String.ofList cs)) :: given, none)
    | some .always =>
      if cs.isEmpty then .ok (given, some c) else .ok ((c, some (String.ofList cs)) :: given, none)

/-- The name and letter that a beginning of a name stands for. -/
def findName (t : OptionTable) (text : String) : Except String (String × Char) :=
  match t.names.find? fun n => n.1 == text with
  | some found => .ok found
  | none =>
    let fitting := t.names.filter fun n => n.1.startsWith text
    match fitting with
    | [] => .error ("unrecognized option '--" ++ text ++ "'")
    | found :: others =>
      if others.all fun n => n.2 == found.2 then .ok found
      else
        let names := fitting.map fun n => " '--" ++ n.1 ++ "'"
        .error ("option '--" ++ text ++ "' is ambiguous; possibilities:" ++ String.join names)

/-- Reads arguments; options and operands so far are in reverse. -/
def readFrom (t : OptionTable) (given : List (Char × Option String)) (operands : List String) :
    List String → Except String Options
  | [] => .ok ⟨given.reverse, operands.reverse⟩
  | argument :: rest =>
    let wait (given : List (Char × Option String)) (letter : Char) (missing : String) :
        Except String Options :=
      match rest with
      | [] => .error missing
      | value :: rest => t.readFrom ((letter, some value) :: given) operands rest
    match argument.toList with
    | ['-', '-'] => .ok ⟨given.reverse, operands.reverse ++ rest⟩
    | '-' :: '-' :: text =>
      let name := String.ofList (text.takeWhile (· ≠ '='))
      let value? := match text.dropWhile (· ≠ '=') with
        | _ :: value => some (String.ofList value)
        | [] => none
      match t.findName name with
      | .error why => .error (if value?.isSome && why.startsWith "unrec" then
          "unrecognized option '" ++ argument ++ "'" else why)
      | .ok (name, letter) =>
        match (t.valueOf? letter).getD .never, value? with
        | .never, some _ => .error ("option '--" ++ name ++ "' doesn't allow an argument")
        | .always, none =>
          wait given letter ("option '--" ++ name ++ "' requires an argument")
        | _, value? => t.readFrom ((letter, value?) :: given) operands rest
    | '-' :: c :: cs =>
      match t.readGroup given (c :: cs) with
      | .error why => .error why
      | .ok (given, none) => t.readFrom given operands rest
      | .ok (given, some letter) =>
        wait given letter ("option requires an argument -- '" ++ String.singleton letter ++ "'")
    | _ =>
      if t.stopsAtOperand then .ok ⟨given.reverse, operands.reverse ++ argument :: rest⟩
      else t.readFrom given (argument :: operands) rest

/-- The options and operands that arguments are, or what is wrong with them. -/
def read (t : OptionTable) (arguments : List String) : Except String Options :=
  t.readFrom [] [] arguments

end OptionTable

/-- Complains about the arguments of a tool, and tells where help is to be had. -/
def complainOfUsage (tool why : String) : Run Unit := do
  unless why.isEmpty do complain (tool ++ ": " ++ why)
  complain ("Try '" ++ tool ++ " --help' for more information.")

/-- Carries out a tool with its options; `status` is that of a fault in them. -/
def withOptions (tool : String) (status : Nat) (table : OptionTable) (arguments : List String)
    (act : Options → Run Nat) : Run Nat := do
  match table.read arguments with
  | .ok options => act options
  | .error why =>
    complainOfUsage tool why
    return status

end LayerNet.Shell
