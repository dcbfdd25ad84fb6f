import LayerNet.Shell.Regex.Search
import LayerNet.Shell.Tools.Input
import LayerNet.Shell.Tools.Options

/-!
# Expressions in arguments

The tool that evaluates an expression whose operands and operators are its arguments.

Main definitions:

- `ArgumentExpression.read`: the value of an expression.
- `exprTool`: the tool.
-/

namespace LayerNet.Shell

namespace ArgumentExpression

/-! ## Operators -/

/-- Whether a value counts as nothing: it is empty or zero. -/
def isNothing (value : String) : Bool :=
  let digits := match value.toList with
    | '-' :: ds => ds
    | ds => ds
  value.isEmpty || (!digits.isEmpty && digits.all (· = '0'))

/-- The integer that a value is. -/
def integer? (value : String) : Option Int :=
  match value.toList with
  | '-' :: d :: ds =>
    if (d :: ds).all Char.isDigit then some (-(Decimal.natOfDigits (d :: ds) : Int)) else none
  | d :: ds => if (d :: ds).all Char.isDigit then some (Decimal.natOfDigits (d :: ds)) else none
  | [] => none

/-- What a match of a text with an expression from its beginning gives: its first group, or its
length. -/
def matchValue (text pattern : String) : Except String String := do
  match Regex.read { repeatsTwice := true } pattern.toList with
  | .error fault => throw fault.message
  | .ok r =>
    let program := r.compile false false
    let cs := text.toList.toArray
    let found? := (program.search cs 0).filter fun f => f.start = 0
    let hasGroup := 0 < program.groups
    match found? with
    | none => return if hasGroup then "" else "0"
    | some f =>
      if hasGroup then
        match f.groups[1]?.getD none with
        | some (start, stop) => return String.ofList (cs.extract start stop).toList
        | none => return ""
      else return Decimal.natText f.stop

/-- The part of a text that begins at a place, counted from one, and has a length. -/
def part (text place size : String) : String :=
  match integer? place, integer? size with
  | some n, some m =>
    if n ≤ 0 || m ≤ 0 then ""
    else String.ofList ((text.toList.drop (n.toNat - 1)).take m.toNat)
  | _, _ => ""

/-- The place, counted from one, of the first character of a text that is among others; zero if
there is none. -/
def placeOf (text members : String) : Nat :=
  (text.toList.findIdx? members.toList.contains).elim 0 (· + 1)

/-- The value of an operator that compares. -/
def compared (op a b : String) : String :=
  let order := match integer? a, integer? b with
    | some x, some y => compare x y
    | _, _ => compare a b
  let holds : Bool := match op with
    | "=" | "==" => order = .eq
    | "!=" => order ≠ .eq
    | "<" => order = .lt
    | "<=" => order ≠ .gt
    | ">" => order = .gt
    | _ => order ≠ .lt
  if holds then "1" else "0"

/-- The value of an operator on integers. -/
def computed (op a b : String) : Except String String :=
  match integer? a, integer? b with
  | some n, some m =>
    match op with
    | "+" => .ok (Decimal.intText (n + m))
    | "-" => .ok (Decimal.intText (n - m))
    | "*" => .ok (Decimal.intText (n * m))
    | "/" => if m = 0 then .error "division by zero" else .ok (Decimal.intText (Int.tdiv n m))
    | _ => if m = 0 then .error "division by zero" else .ok (Decimal.intText (Int.tmod n m))
  | _, _ => .error "non-integer argument"

/-- The value of an operator; one that is not wanted is not computed. -/
def apply (wanted : Bool) (op a b : String) : Except String String :=
  match op with
  | "|" => .ok (if !isNothing a then a else if isNothing b then "0" else b)
  | "&" => .ok (if isNothing a || isNothing b then "0" else a)
  | ":" => if wanted then matchValue a b else .ok a
  | "=" | "==" | "!=" | "<" | "<=" | ">" | ">=" => .ok (compared op a b)
  | op => if wanted then computed op a b else .ok a

/-- The operators from the loosest to the tightest level. -/
def levels : List (List String) :=
  [["|"], ["&"], ["=", "==", "!=", "<", ">", "<=", ">="], ["+", "-"], ["*", "/", "%"], [":"]]

/-! ## Reading -/

/-- How an expression is read on: its value, the arguments behind it, and the last one of it. -/
structure Reading where
  value : String
  rest : List String
  last : String

/-- The result of reading. -/
abbrev Result := Except String Reading

/-- What is said if an argument is missing. -/
def missing (last : String) : Result :=
  .error ("syntax error: missing argument after " ++ quoted last)

mutual

/-- Evaluates operands joined by the operators of some levels; `last` is the argument in front. -/
def readLevels (wanted : Bool) : Nat → List (List String) → String → List String → Result
  | 0, _, last, _ => missing last
  | fuel + 1, [], last, arguments => readOperand wanted fuel last arguments
  | fuel + 1, level :: tighter, last, arguments => do
    let r ← readLevels wanted fuel tighter last arguments
    readTail wanted fuel level tighter r

/-- Evaluates what is joined to a value by the operators of a level. -/
def readTail (wanted : Bool) : Nat → List String → List (List String) → Reading → Result
  | 0, _, _, a => .ok a
  | fuel + 1, level, tighter, a =>
    match a.rest with
    | [] => .ok a
    | op :: rest =>
      if level.contains op then do
        let skips := (op = "|" && !isNothing a.value) || (op = "&" && isNothing a.value)
        let b ← readLevels (wanted && !skips) fuel tighter op rest
        readTail wanted fuel level tighter { b with value := ← apply wanted op a.value b.value }
      else .ok a

/-- Evaluates an operand. -/
def readOperand (wanted : Bool) : Nat → String → List String → Result
  | 0, last, _ => missing last
  | _, last, [] => missing last
  | fuel + 1, _, first :: rest =>
    let one (last : String) (arguments : List String) : Result :=
      readOperand wanted fuel last arguments
    match first with
    | "+" =>
      match rest with
      | [] => missing first
      | a :: rest => .ok ⟨a, rest, a⟩
    | "length" => do
      let a ← one first rest
      return { a with value := Decimal.natText a.value.length }
    | "match" => do
      let a ← one first rest
      let b ← one a.last a.rest
      return { b with value := ← apply wanted ":" a.value b.value }
    | "index" => do
      let a ← one first rest
      let b ← one a.last a.rest
      return { b with value := Decimal.natText (placeOf a.value b.value) }
    | "substr" => do
      let a ← one first rest
      let b ← one a.last a.rest
      let c ← one b.last b.rest
      return { c with value := part a.value b.value c.value }
    | "(" => do
      let a ← readLevels wanted fuel levels first rest
      match a.rest with
      | [] => throw ("syntax error: expecting ')' after " ++ quoted a.last)
      | ")" :: rest => return { a with rest, last := ")" }
      | other :: _ => throw ("syntax error: expecting ')' instead of " ++ quoted other)
    | ")" => .error "syntax error: unexpected ')'"
    | a => .ok ⟨a, rest, a⟩

end

/-- The value of the expression that arguments are, or what is wrong with it. -/
def read (arguments : List String) : Except String String := do
  let r ← readLevels true (16 * arguments.length + 16) levels "expr" arguments
  match r.rest with
  | [] => return r.value
  | extra :: _ => throw ("syntax error: unexpected argument " ++ quoted extra)

end ArgumentExpression

/-- Writes the value of an expression. -/
def exprTool (tool : String) (arguments : List String) : Run Nat := do
  let arguments := if arguments.head? = some "--" then arguments.tail else arguments
  if arguments.isEmpty then
    complainOfUsage tool "missing operand"
    return 2
  match ArgumentExpression.read arguments with
  | .ok value =>
    out (value ++ "\n")
    return if ArgumentExpression.isNothing value then 1 else 0
  | .error why => failing 2 tool why

end LayerNet.Shell
