import LayerNet.Decimal.Reader
import LayerNet.Table
import LayerNet.Text.Lines

/-!
# Command line arguments

A command has one input and options.  Options are written with two dashes and a name, or with one
dash and a letter; a value follows as the next argument, behind an equals sign, or right behind
the letter. Behind two dashes alone there are no more options.

Main definitions:

- `OptionSpec`, `CommandSpec`: what a command takes.
- `CommandSpec.read`: the arguments of a command, read from left to right up to the first fault.
- `CommandSpec.helpText`: what is shown to one who asks for help.
-/

namespace LayerNet.CommandLine

/-! ## Specifications -/

/-- The values that an option takes: none, any text, a path, an unsigned word, or a float. -/
inductive ValueKind where
  | flag
  | text
  | path
  | count
  | number
deriving DecidableEq, Repr

/-- Whether a text can be the value of an option. -/
def ValueKind.accepts : ValueKind → String → Bool
  | flag, _ => false
  | text, _ => true
  | path, value => !value.isEmpty
  | count, value => (Decimal.word64? value).isSome
  | number, value => (Decimal.float? value).isSome

/-- An option of a command. -/
structure OptionSpec where
  name : String
  letter : Option Char := none
  kind : ValueKind
  /-- what stands for the value where the option is described -/
  placeholder : String := ""
  about : String

/-- A command. -/
structure CommandSpec where
  name : String
  about : String
  /-- what the input is -/
  inputAbout : String
  options : List OptionSpec

/-! ## Faults -/

/-- What is wrong with arguments. -/
inductive UsageError where
  | noCommand
  | unknownCommand (name : String)
  | unexpected (argument : String)
  | missingInput
  | missingValue (option : String)
  | invalidValue (option value : String)
  | repeated (option : String)
deriving DecidableEq, Repr

/-- What is said of an error. -/
def UsageError.message : UsageError → String
  | noCommand => "a command is required"
  | unknownCommand name => "unrecognized subcommand '" ++ name ++ "'"
  | unexpected argument => "unexpected argument '" ++ argument ++ "' found"
  | missingInput => "the following required arguments were not provided:\n  <INPUT>"
  | missingValue option => "a value is required for '" ++ option ++ "' but none was supplied"
  | invalidValue option value => "invalid value '" ++ value ++ "' for '" ++ option ++ "'"
  | repeated option => "the argument '" ++ option ++ "' cannot be used multiple times"

/-- Why arguments are not read on: there is something to show, or an error. -/
inductive Stop where
  | shows (text : String)
  | usage (error : UsageError)
deriving DecidableEq, Repr

/-! ## Help -/

namespace OptionSpec

/-- The option that asks for help. -/
def help : OptionSpec where
  name := "help"
  letter := some 'h'
  kind := .flag
  about := "Print help"

/-- Whether an option takes a value. -/
def takesValue (o : OptionSpec) : Bool :=
  o.kind != .flag

/-- An option as it is written, with what stands for its value. -/
def shown (o : OptionSpec) : String :=
  "--" ++ o.name ++ (if o.takesValue then " <" ++ o.placeholder ++ ">" else "")

/-- The letter of an option in front of its name. -/
def shownLetter (o : OptionSpec) : String :=
  match o.letter with
  | some c => "-" ++ String.singleton c ++ ", "
  | none => "    "

end OptionSpec

/-- Each option with its description beside it; the descriptions begin in one column. -/
def optionRows (options : List OptionSpec) : List String :=
  let widest := (options.map fun o => o.shown.length).foldl max 0
  options.map fun o =>
    "  " ++ o.shownLetter ++ o.shown ++ "".pushn ' ' (widest - o.shown.length + 2) ++ o.about

/-- What is shown to one who asks for help with a command. -/
def CommandSpec.helpText (program : String) (spec : CommandSpec) : String :=
  spec.about ++ "\n\nUsage: " ++ program ++ " " ++ spec.name ++ " [OPTIONS] <INPUT>\n\nArguments:\n"
    ++ "  <INPUT>  " ++ spec.inputAbout ++ "\n\nOptions:\n"
    ++ "\n".intercalate (optionRows (spec.options ++ [.help])) ++ "\n"

/-! ## Reading -/

/-- The arguments of a command that are read so far. -/
structure Given where
  input : Option String := none
  values : Table String := []

namespace Given

/-- The value of an option. -/
def value? (g : Given) (name : String) : Option String :=
  Table.find? name g.values

/-- Whether an option is given. -/
def has (g : Given) (name : String) : Bool :=
  (g.value? name).isSome

/-- Takes an argument as the input. -/
def withInput (g : Given) (argument : String) : Except Stop Given :=
  if g.input.isSome then .error (.usage (.unexpected argument))
  else if argument.isEmpty then .error (.usage (.invalidValue "<INPUT>" argument))
  else .ok { g with input := some argument }

/-- Gives an option a value, which is empty where it takes none. -/
def withOption (g : Given) (o : OptionSpec) (value : String) : Except Stop Given :=
  if o.takesValue && !o.kind.accepts value then .error (.usage (.invalidValue o.shown value))
  else if g.has o.name then .error (.usage (.repeated o.shown))
  else .ok { g with values := (o.name, value) :: g.values }

end Given

/-- Whether an argument is written like an option. -/
def isOptionLike (argument : String) : Bool :=
  match argument.toList with
  | '-' :: _ :: _ => true
  | _ => false

/-- An option as it is written: the test for its specification, and the value behind it. -/
def splitOption? (argument : String) : Option ((OptionSpec → Bool) × Option String) :=
  match argument.toList with
  | '-' :: '-' :: cs =>
    let name := cs.takeWhile (· ≠ '=')
    let value := match cs.dropWhile (· ≠ '=') with
      | _ :: value => some (String.ofList value)
      | [] => none
    some (fun o => o.name == String.ofList name, value)
  | '-' :: c :: cs =>
    let value := match cs with
      | [] => none
      | '=' :: value => some (String.ofList value)
      | value => some (String.ofList value)
    some (fun o => o.letter == some c, value)
  | _ => none

/-- Reads the arguments of a command. -/
def CommandSpec.read (program : String) (spec : CommandSpec) (given : Given) :
    List String → Except Stop Given
  | [] => .ok given
  | argument :: rest => do
    if argument = "--" then
      return ← rest.foldlM (fun g a => g.withInput a) given
    match splitOption? argument with
    | none => spec.read program (← given.withInput argument) rest
    | some (isMeant, attached) =>
      match (spec.options ++ [OptionSpec.help]).find? isMeant, attached with
      | none, _ => .error (.usage (.unexpected argument))
      | some o, some value =>
        if o.name = "help" && !argument.startsWith "--" then .error (.shows (spec.helpText program))
        else if o.takesValue then spec.read program (← given.withOption o value) rest
        else .error (.usage (.unexpected argument))
      | some o, none =>
        if o.name = "help" then .error (.shows (spec.helpText program))
        else if !o.takesValue then spec.read program (← given.withOption o "") rest
        else
          match rest with
          | [] => .error (.usage (.missingValue o.shown))
          | value :: rest =>
            if isOptionLike value then .error (.usage (.missingValue o.shown))
            else spec.read program (← given.withOption o value) rest

end LayerNet.CommandLine
