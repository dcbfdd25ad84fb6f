import LayerNet.Shell.State
import LayerNet.Shell.Tools.Quoting

/-!
# Inputs of tools

A tool reads the files that are its operands, and the standard input for `-` or if there are none.
Of an input only a first part may be known: a tool that goes along its input writes what it can and
then starves, one that needs all of it starves at once.

Main definitions:

- `Input`: what an operand gives to read.
- `readOperand`, `readOperands`: the inputs of a tool.
- `Input.lines`: the lines of an input.
-/

namespace LayerNet.Shell

/-! ## Operands -/

/-- What an operand gives to read. -/
structure Input where
  /-- the operand -/
  name : String
  bytes : List UInt8
  isWhole : Bool := true

/-- How a tool speaks of an operand. -/
def inputName (operand : String) : String :=
  if operand = "-" then "standard input" else operand

/-- How a tool complains about operands that cannot be opened, and about directories. -/
structure InputFaults where
  opening : String → String → String
  reading : String → String → String

/-- Complaints that begin with the name of the tool and the operand. -/
def InputFaults.plain (tool : String) : InputFaults where
  opening path why := tool ++ ": " ++ shownName path ++ ": " ++ why
  reading path why := tool ++ ": " ++ shownName path ++ ": " ++ why

/-- Complaints that say what could not be done with an operand. -/
def InputFaults.spoken (tool : String) : InputFaults where
  opening path why := tool ++ ": cannot open " ++ shellQuoted path ++ " for reading: " ++ why
  reading path why := tool ++ ": error reading " ++ shellQuoted path ++ ": " ++ why

/-- How many bytes are read of what has no end. -/
def endlessSize : Run Nat :=
  return (← get).endless

/-- What the standard input gives to read; it is passed over. -/
def readStandard (wanted : Nat) : Run (Except FileFault Available) := do
  let found := (← get).available 0 wanted
  if let .ok a := found then passOver 0 a.bytes.length
  return found

/-- What a file gives to read. -/
def readPath (path : String) (wanted : Nat) : Run (Except FileFault Available) := do
  match descriptorOfPath? path with
  | some d => return (← get).available d wanted
  | none =>
    match (← get).files.locate (toText path) with
    | .error fault => return .error fault
    | .ok (_, .file content _) => return .ok ⟨content.toList, true⟩
    | .ok (_, .directory _) => return .error .isADirectory
    | .ok (_, .device device) =>
      if device = .null then return .ok ⟨[], true⟩
      else return .ok ⟨List.replicate wanted 0, false⟩

/-- What an operand gives to read; what is wrong with it is said. -/
def readOperand (faults : InputFaults) (wanted : Nat) (operand : String) : Run (Option Input) := do
  let found ← if operand = "-" then readStandard wanted else readPath operand wanted
  match found with
  | .ok a => return some ⟨operand, a.bytes, a.isWhole⟩
  | .error .isADirectory =>
    complain (faults.reading operand FileFault.isADirectory.text)
    return none
  | .error fault =>
    complain (faults.opening operand fault.text)
    return none

/-- What the operands of a tool give to read; those that cannot be read are left out, and make the
status `failure`. -/
def readOperands (faults : InputFaults) (failure : Nat) (operands : List String) :
    Run (List Input × Nat) := do
  let wanted ← endlessSize
  let mut found := #[]
  let mut status := 0
  for operand in if operands.isEmpty then ["-"] else operands do
    match ← readOperand faults wanted operand with
    | some input => found := found.push input
    | none => status := failure
  return (found.toList, status)

/-- Starves if one of some inputs is not known to its end. -/
def starveBehind (inputs : List Input) : Run Unit := do
  unless inputs.all Input.isWhole do starve

/-- Starves if one of some inputs is not known to its end; tells whether all are known. -/
def haveAll (inputs : List Input) : Run Bool := do
  starveBehind inputs
  return inputs.all Input.isWhole

/-- The bytes of inputs one behind another, as far as they are known. -/
def joinInputs : List Input → Input
  | [] => ⟨"", [], true⟩
  | input :: inputs =>
    if input.isWhole then
      let rest := joinInputs inputs
      ⟨input.name, input.bytes ++ rest.bytes, rest.isWhole⟩
    else input

/-! ## Lines -/

/-- A line, and whether it was closed. -/
structure Line where
  text : List Char
  isClosed : Bool := true

/-- The bytes up to each `mark`, as characters, and those behind the last one. -/
def cutAt (mark : UInt8) (bytes : List UInt8) : List (List Char) × List Char :=
  let step (acc : List (List Char) × List Char) (b : UInt8) : List (List Char) × List Char :=
    if b = mark then (acc.2.reverse :: acc.1, []) else (acc.1, Char.ofNat b.toNat :: acc.2)
  let (lines, rest) := bytes.foldl step ([], [])
  (lines.reverse, rest.reverse)

/-- The lines of an input; one that is not known to its end is left out. -/
def Input.linesAt (mark : UInt8) (input : Input) : List Line :=
  let (lines, rest) := cutAt mark input.bytes
  let lines := lines.map fun text => { text : Line }
  if rest.isEmpty || !input.isWhole then lines else lines ++ [⟨rest, false⟩]

/-- The lines of an input. -/
def Input.lines (input : Input) : List Line :=
  input.linesAt 10

/-- The texts of the lines of an input. -/
def Input.texts (input : Input) : List (List Char) :=
  input.lines.map Line.text

/-- Writes lines. -/
def outLines (lines : List (List Char)) : Run Unit :=
  unless lines.isEmpty do
    outChars (lines.flatMap fun line => line ++ ['\n'])

/-- Writes lines as they were closed. -/
def outAsClosed (lines : List Line) : Run Unit :=
  unless lines.isEmpty do
    outChars (lines.flatMap fun line => if line.isClosed then line.text ++ ['\n'] else line.text)

/-! ## Numbers in arguments -/

/-- The factor that a unit behind a number stands for: a block, or a power of 1024, or of 1000 if
the letter is followed by `B`. -/
def unitFactor? (unit : List Char) : Option Nat :=
  let powers : List (Char × Nat) :=
    [('k', 1), ('K', 1), ('m', 2), ('M', 2), ('g', 3), ('G', 3), ('t', 4), ('T', 4), ('P', 5),
      ('E', 6), ('Z', 7), ('Y', 8), ('R', 9), ('Q', 10)]
  match unit with
  | [] => some 1
  | ['b'] => some 512
  | letter :: rest =>
    (powers.find? fun p => p.1 == letter).bind fun p =>
      match rest with
      | [] | ['i', 'B'] => some (Nat.pow 1024 p.2)
      | ['B'] => some (Nat.pow 1000 p.2)
      | _ => none

/-- What an argument that should be a number comes to. -/
inductive CountArgument where
  | count (n : Nat)
  | tooLarge
  | invalid
deriving DecidableEq, Repr

/-- A number that fits in a word. -/
def CountArgument.ofNat (n : Nat) : CountArgument :=
  if n < Nat.pow 2 64 then .count n else .tooLarge

/-- A number with a unit behind it, of which the first letter is one of `units`; a unit alone counts
once. -/
def countOf (units : String) (text : String) : CountArgument :=
  let cs := text.toList.dropWhile fun c => c = ' ' || (9 ≤ c.toNat && c.toNat ≤ 13)
  let cs := if cs.head? = some '+' then cs.tail else cs
  let digits := cs.takeWhile Char.isDigit
  let unit := cs.drop digits.length
  let isKnown := unit.head?.all units.toList.contains
  if !isKnown || (digits.isEmpty && unit.isEmpty) then .invalid
  else
    match unitFactor? unit with
    | none => .invalid
    | some factor =>
      .ofNat ((if digits.isEmpty then 1 else Decimal.natOfDigits digits) * factor)

/-- The units of lengths. -/
def lengthUnits : String := "bkKmMGTPEZYRQ"

/-- The number that an argument gives, or what a tool says of one that gives none. -/
def checkedCount (units text what : String) : Except String Nat :=
  match countOf units text with
  | .count n => .ok n
  | .tooLarge => .error (what ++ ": " ++ quoted text ++ ": Value too large for defined data type")
  | .invalid => .error (what ++ ": " ++ quoted text)

/-- A number that digits alone write. -/
def natOf? (text : String) : Option Nat :=
  if text.isEmpty || !text.toList.all Char.isDigit then none
  else some (Decimal.natOfDigits text.toList)

/-- A number as text, filled up with blanks in front. -/
def numberIn (width n : Nat) : List Char :=
  let digits := Decimal.digits n
  List.replicate (width - digits.length) ' ' ++ digits

/-- Complains about something, and gives a status. -/
def failing (status : Nat) (tool text : String) : Run Nat := do
  complain (tool ++ ": " ++ text)
  return status

end LayerNet.Shell
