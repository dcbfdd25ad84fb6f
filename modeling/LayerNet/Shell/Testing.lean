import LayerNet.Shell.Arithmetic
import LayerNet.Shell.State
import LayerNet.Shell.Tools.Quoting

/-!
# Tests

The tests of files, strings and numbers that a shell carries out.

Main definitions:

- `testExpression`: what a test says of its arguments, or why it cannot tell.
- `testCommand`: the command, and `shellTest`, as the shell itself carries it out.
-/

namespace LayerNet.Shell

/-! ## Faults -/

/-- Why a test says nothing of its arguments. -/
inductive TestFault where
  | notNumber (argument : String)
  | missingArgument (operator : String)
  | unexpected (argument : String) (rest : List String)
  | missingParenthesis
  | tooDeep
  | missingBracket
deriving DecidableEq, Repr

namespace TestFault

/-- What the command of the shell says of a fault. -/
def shellMessage : TestFault → String
  | notNumber argument => "Illegal number: " ++ argument
  | missingArgument operator => operator ++ ": argument expected"
  | unexpected argument _ => argument ++ ": unexpected operator"
  | missingParenthesis => "closing paren expected"
  | tooDeep => "expression too deep"
  | missingBracket => "missing ]"

/-- What the tool says of a fault in so many arguments. -/
def toolMessage (count : Nat) : TestFault → String
  | notNumber argument => "invalid integer " ++ quoted argument
  | missingArgument operator => "missing argument after " ++ quoted operator
  | unexpected argument rest =>
    let next := rest.headD ""
    if count = 2 then "missing argument after " ++ quoted (rest.getLastD argument)
    else if count = 3 then quoted next ++ ": binary operator expected"
    else "extra argument " ++ quoted next
  | missingParenthesis => "')' expected"
  | tooDeep => "expression too deep"
  | missingBracket => "missing ']'"

end TestFault

/-! ## Single tests -/

/-- The number that a test takes an argument for. -/
def testInteger (argument : String) : Except TestFault Int :=
  match Arithmetic.integer? argument.toList with
  | some n => .ok n
  | none => .error (.notNumber argument)

/-- What a path leads to: an entry of the files, or a channel that runs from one program to
another. -/
inductive PathTarget where
  | entry (node : Node)
  | pipe

/-- What a path leads to, be it by a descriptor. -/
def State.target? (s : State) (path : String) : Option PathTarget :=
  match descriptorOfPath? path with
  | some d =>
    match s.channel? d with
    | some (_, .input ..) | some (_, .output ..) => some .pipe
    | some (_, .file place _ _) => (s.files.node? place).map .entry
    | some (_, .device device _) => some (.entry (.device device))
    | none => none
  | none => (s.files.locate (toText path)).toOption.map fun found => .entry found.2

/-- What a test of one string says, if there is such a test. -/
def testOne? (s : State) (test argument : String) : Option (Except TestFault Bool) :=
  let target? := s.target? argument
  let node? : Option Node := match target? with
    | some (.entry node) => some node
    | _ => none
  let found (holds : Bool) : Option (Except TestFault Bool) := some (.ok holds)
  match test with
  | "-n" => found (!argument.isEmpty)
  | "-z" => found argument.isEmpty
  | "-e" | "-r" | "-w" | "-O" | "-G" => found target?.isSome
  | "-f" => found (node?.any Node.isFile)
  | "-d" => found (node?.any Node.isDirectory)
  | "-x" => found (node?.any fun
      | .file _ executable => executable
      | node => node.isDirectory)
  | "-s" => found (node?.any fun
      | .file content _ => content.size ≠ 0
      | node => node.isDirectory)
  | "-c" => found (node?.any fun
      | .device _ => true
      | _ => false)
  | "-p" => found (match target? with
      | some .pipe => true
      | _ => false)
  | "-b" | "-g" | "-h" | "-k" | "-L" | "-S" | "-u" => found false
  | "-t" => some ((testInteger argument).map fun _ => false)
  | _ => none

/-- The comparison of two numbers that a test of two strings makes, if it is one. -/
def testNumbers? : String → Option (Int → Int → Bool)
  | "-eq" => some fun a b => a == b
  | "-ne" => some fun a b => a != b
  | "-lt" => some fun a b => a < b
  | "-le" => some fun a b => a ≤ b
  | "-gt" => some fun a b => a > b
  | "-ge" => some fun a b => a ≥ b
  | _ => none

/-- What a test of two strings says, if there is such a test. -/
def testTwo? (s : State) (a test b : String) : Option (Except TestFault Bool) :=
  match test with
  | "-nt" | "-ot" => some (.ok false)
  | "-ef" =>
    match s.files.locate (toText a), s.files.locate (toText b) with
    | .ok (place, _), .ok (other, _) => some (.ok (place == other))
    | _, _ => some (.ok false)
  | "=" => some (.ok (a == b))
  | "!=" => some (.ok (a != b))
  | "<" => some (.ok (a < b))
  | ">" => some (.ok (b < a))
  | _ =>
    (testNumbers? test).map fun compare => do
      let a ← testInteger a
      let b ← testInteger b
      return compare a b

/-- How `test` reads on: what it found, and the arguments behind. -/
abbrev TestResult := Except TestFault (Bool × List String)

/-- Whether a test is one of two strings. -/
def isTestOfTwo (test : String) : Bool :=
  ["-nt", "-ot", "-ef", "=", "!=", "<", ">"].contains test || (testNumbers? test).isSome

/-- Whether the first argument names a test of the one behind it; it does not if it is compared
itself. -/
def beginsTestOfOne (s : State) : List String → Bool
  | test :: rest =>
    (testOne? s test "").isSome && !rest.isEmpty &&
      !(isTestOfTwo (rest.headD "") && rest.length ≠ 1)
  | [] => false

mutual

/-- Reads tests joined by `-o`. -/
def testEither (s : State) : Nat → List String → TestResult
  | 0, _ => .error .tooDeep
  | fuel + 1, arguments => do
    let (a, rest) ← testBoth s fuel arguments
    match rest with
    | "-o" :: rest =>
      let (b, rest) ← testEither s fuel rest
      return (a || b, rest)
    | rest => return (a, rest)

/-- Reads tests joined by `-a`. -/
def testBoth (s : State) : Nat → List String → TestResult
  | 0, _ => .error .tooDeep
  | fuel + 1, arguments => do
    let (a, rest) ← testSingle s fuel arguments
    match rest with
    | "-a" :: rest =>
      let (b, rest) ← testBoth s fuel rest
      return (a && b, rest)
    | rest => return (a, rest)

/-- Reads a single test, one in parentheses, or one that is turned round. -/
def testSingle (s : State) : Nat → List String → TestResult
  | 0, _ => .error .tooDeep
  | fuel + 1, arguments =>
    match arguments with
    | [] => .ok (false, [])
    | "!" :: rest => (testSingle s fuel rest).map fun r => (!r.1, r.2)
    | "(" :: ")" :: rest => .ok (false, rest)
    | "(" :: a :: rest =>
      match testEither s fuel (a :: rest) with
      | .ok (found, ")" :: rest) => .ok (found, rest)
      | .ok _ => .error .missingParenthesis
      | .error e => .error e
    | a :: rest =>
      match rest with
      | op :: more =>
        if beginsTestOfOne s (a :: rest) then
          ((testOne? s a op).getD (.ok false)).map fun found => (found, more)
        else if isTestOfTwo op then
          match more with
          | [] => .error (.missingArgument op)
          | b :: more => ((testTwo? s a op b).getD (.ok false)).map fun found => (found, more)
        else .ok (!a.isEmpty, rest)
      | [] => .ok (!a.isEmpty, [])

end

/-- What tests say that take all of some arguments. -/
def testAll (s : State) (arguments : List String) : Except TestFault Bool :=
  match testEither s (3 * arguments.length + 3) arguments with
  | .error e => .error e
  | .ok (found, []) => .ok found
  | .ok (_, rest) =>
    let last := arguments[arguments.length - rest.length - 1]?.getD ""
    .error (.unexpected last rest)

/-- What `test` says of its arguments, or why it cannot tell.  Three arguments are a test of two
strings if they can be one, else three or four may be turned round or in parentheses as a
whole. -/
def testExpression (s : State) (arguments : List String) : Except TestFault Bool :=
  match arguments with
  | [] => .ok false
  | [a, op, b] =>
    if let some found := testTwo? s a op b then found
    else if a = "(" && b = ")" then testAll s [op]
    else if a = "!" then (testAll s [op, b]).map not
    else testAll s arguments
  | ["!", a, op, b] =>
    match testTwo? s a op b with
    | some found => found.map not
    | none => (testAll s [a, op, b]).map not
  | ["(", a, b, ")"] => testAll s [a, b]
  | arguments => testAll s arguments

/-- Tests its arguments, of which a test in brackets has a closing one behind them; what is wrong is
said by `complainOf`. -/
def testCommand (inBrackets : Bool) (complainOf : Nat → TestFault → Run Unit)
    (arguments : List String) : Run Nat := do
  if inBrackets && arguments.getLast? ≠ some "]" then
    complainOf arguments.length .missingBracket
    return 2
  let arguments := if inBrackets then arguments.dropLast else arguments
  match testExpression (← get) arguments with
  | .ok true => return 0
  | .ok false => return 1
  | .error fault =>
    complainOf arguments.length fault
    return 2

/-- The test that the shell itself carries out. -/
def shellTest (inBrackets : Bool) : List String → Run Nat :=
  testCommand inBrackets fun _ fault => complainHere fault.shellMessage

end LayerNet.Shell
