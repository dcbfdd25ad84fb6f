import LayerNet.Decimal.Digits
import LayerNet.Decimal.Reader
import LayerNet.Table

/-!
# Arithmetic of the shell

Expressions over whole numbers of 64 bits.  An expression is read into a tree, which is then
evaluated with the values of the variables; assignments inside of it change them.

Main definitions:

- `Arithmetic.Expr`: expressions.
- `Arithmetic.read`: an expression from its text.
- `Arithmetic.evaluate`: the value of a text, and the variables that were assigned.
-/

namespace LayerNet.Shell.Arithmetic

/-! ## Numbers -/

/-- The value of a digit up to base sixteen. -/
def digitOf? (c : Char) : Option Nat :=
  if c.isDigit then some (c.toNat - 48)
  else if 'a' ≤ c && c ≤ 'f' then some (c.toNat - 87)
  else if 'A' ≤ c && c ≤ 'F' then some (c.toNat - 55)
  else none

/-- The digits of a base in front of characters as a number, how many there are, and what
follows. -/
def readDigits (base : Nat) (value count : Nat) : List Char → Nat × Nat × List Char
  | [] => (value, count, [])
  | c :: cs =>
    match (digitOf? c).filter (· < base) with
    | some d => readDigits base (value * base + d) (count + 1) cs
    | none => (value, count, c :: cs)

/-- The number in front of characters: decimal, hexadecimal behind `0x`, octal behind `0`. -/
def readNumber (cs : List Char) : Option (Nat × List Char) :=
  let result := match cs with
    | '0' :: x :: rest =>
      if x = 'x' || x = 'X' then
        let (value, count, after) := readDigits 16 0 0 rest
        if count = 0 then (0, 1, x :: rest) else (value, count, after)
      else readDigits 8 0 0 cs
    | cs => readDigits 10 0 0 cs
  if result.2.1 = 0 then none else some (result.1, result.2.2)

/-- The largest number of 64 bits with a sign. -/
def largest : Nat :=
  Nat.pow 2 63 - 1

/-- A number within 64 bits. -/
def wrapped (n : Int) : Int :=
  Int.bmod n UInt64.size

/-- The characters behind blanks. -/
def skipBlanks (cs : List Char) : List Char :=
  cs.dropWhile fun c => c = ' ' || c = '\t' || c = '\n'

/-- The number in front of characters, with blanks and a sign before it, and what follows. -/
def leadingInteger? (cs : List Char) : Option (Int × List Char) :=
  match cs.dropWhile fun c => c = ' ' || (9 ≤ c.toNat && c.toNat ≤ 13) with
  | '-' :: ds => (readNumber ds).map fun r => (-(r.1 : Int), r.2)
  | '+' :: ds => (readNumber ds).map fun r => ((r.1 : Int), r.2)
  | ds => (readNumber ds).map fun r => ((r.1 : Int), r.2)

/-- Whether a character is blank. -/
def isBlank (c : Char) : Bool :=
  c = ' ' || (9 ≤ c.toNat && c.toNat ≤ 13)

/-- Whether a number can be written with 64 bits and a sign. -/
def isInRange (n : Int) : Bool :=
  n == wrapped n

/-- The decimal number that characters write: digits with a sign in front, and blanks around. -/
def integer? (cs : List Char) : Option Int :=
  let read (ds : List Char) : Option Nat :=
    let digits := ds.takeWhile Char.isDigit
    if digits.isEmpty || !(ds.drop digits.length).all isBlank then none
    else some (Decimal.natOfDigits digits)
  let value? : Option Int := match cs.dropWhile isBlank with
    | '-' :: ds => (read ds).map fun n => -(n : Int)
    | '+' :: ds => (read ds).map Int.ofNat
    | ds => (read ds).map Int.ofNat
  value?.filter isInRange

/-! ## Expressions -/

/-- An expression. -/
inductive Expr where
  | number (n : Int)
  | named (name : String)
  | unary (op : Char) (a : Expr)
  | binary (op : String) (a b : Expr)
  | choice (condition a b : Expr)
  | assign (name : String) (op : String) (a : Expr)
deriving Repr

/-- Why an expression has no value. -/
inductive Fault where
  | expected (what : String)
  | divisionByZero
  | illegalNumber (text : String)
deriving DecidableEq, Repr

/-- How an expression is read on: a tree and what follows. -/
abbrev Result := Except Fault (Expr × List Char)

/-- The operators from the loosest to the tightest level. -/
def levels : List (List String) :=
  [["||"], ["&&"], ["|"], ["^"], ["&"], ["==", "!="], ["<=", ">=", "<", ">"], ["<<", ">>"],
    ["+", "-"], ["*", "/", "%"]]

/-- All that an operator can be read as. -/
def symbols : List String :=
  ["<<=", ">>=", "||", "&&", "==", "!=", "<=", ">=", "<<", ">>", "+=", "-=", "*=", "/=", "%=", "&=",
    "^=", "|=", "|", "^", "&", "<", ">", "+", "-", "*", "/", "%", "="]

/-- The longest operator in front of characters, and what follows. -/
def symbol? (cs : List Char) : Option (String × List Char) :=
  let cs := skipBlanks cs
  (symbols.find? fun op => op.toList.isPrefixOf cs).map fun op => (op, cs.drop op.length)

/-- The operator of a level in front of characters, and what follows. -/
def operatorOf? (level : List String) (cs : List Char) : Option (String × List Char) :=
  (symbol? cs).filter fun r => level.contains r.1

/-- The operator that an assignment combines with: `+` for `+=`, nothing for `=` alone. -/
def assignment? (cs : List Char) : Option (String × List Char) :=
  (symbol? cs).bind fun (op, rest) =>
    if ["=", "<<=", ">>=", "+=", "-=", "*=", "/=", "%=", "&=", "^=", "|="].contains op then
      some (String.ofList op.toList.dropLast, rest)
    else none

mutual

/-- Reads an assignment or a choice. -/
def readExpr : Nat → List Char → Result
  | 0, _ => .error (.expected "primary")
  | fuel + 1, cs =>
    let start := skipBlanks cs
    let name := start.takeWhile fun c => c.isAlphanum || c = '_'
    match if (name.head?.map Char.isDigit).getD true then none
      else assignment? (start.drop name.length) with
    | some (op, rest) => do
      let (a, rest) ← readExpr fuel rest
      return (.assign (String.ofList name) op a, rest)
    | none => readChoice fuel cs

/-- Reads a choice between two expressions, or one that is not chosen. -/
def readChoice : Nat → List Char → Result
  | 0, _ => .error (.expected "primary")
  | fuel + 1, cs => do
    let (condition, rest) ← readLevels fuel levels cs
    match skipBlanks rest with
    | '?' :: rest =>
      let (a, rest) ← readExpr fuel rest
      match skipBlanks rest with
      | ':' :: rest =>
        let (b, rest) ← readChoice fuel rest
        return (.choice condition a b, rest)
      | _ => .error (.expected "':'")
    | _ => return (condition, rest)

/-- Reads operands joined by the operators of some levels. -/
def readLevels : Nat → List (List String) → List Char → Result
  | 0, _, _ => .error (.expected "primary")
  | fuel + 1, [], cs => readAtom fuel cs
  | fuel + 1, level :: tighter, cs => do
    let (a, rest) ← readLevels fuel tighter cs
    readTail fuel level tighter a rest

/-- Reads what is joined to an operand by the operators of a level. -/
def readTail : Nat → List String → List (List String) → Expr → List Char → Result
  | 0, _, _, _, _ => .error (.expected "primary")
  | fuel + 1, level, tighter, a, cs =>
    match operatorOf? level cs with
    | none => .ok (a, cs)
    | some (op, rest) => do
      let (b, rest) ← readLevels fuel tighter rest
      readTail fuel level tighter (.binary op a b) rest

/-- Reads a number, a variable, or an expression with a sign or in parentheses. -/
def readAtom : Nat → List Char → Result
  | 0, _ => .error (.expected "primary")
  | fuel + 1, cs =>
    match skipBlanks cs with
    | [] => .error (.expected "primary")
    | '(' :: cs => do
      let (a, rest) ← readExpr fuel cs
      match skipBlanks rest with
      | ')' :: rest => return (a, rest)
      | _ => .error (.expected "')'")
    | c :: cs =>
      if c = '-' || c = '+' || c = '!' || c = '~' then
        (readAtom fuel cs).map fun r => (.unary c r.1, r.2)
      else if c.isDigit then
        match readNumber (c :: cs) with
        | some (n, rest) => .ok (.number (min n largest), rest)
        | none => .error (.expected "primary")
      else if c.isAlpha || c = '_' then
        let isPart (d : Char) : Bool := d.isAlphanum || d = '_'
        .ok (.named (String.ofList (c :: cs.takeWhile isPart)), cs.dropWhile isPart)
      else .error (.expected "primary")

end

/-- The expression that a text writes. -/
def read (cs : List Char) : Except Fault Expr :=
  match readExpr (32 * cs.length + 32) cs with
  | .error fault => .error fault
  | .ok (e, rest) => if (skipBlanks rest).isEmpty then .ok e else .error (.expected "EOF")

/-! ## Values -/

/-- One for what holds, zero for what does not. -/
def truth (b : Bool) : Int :=
  if b then 1 else 0

/-- The bits of a number of 64 bits. -/
def bits (n : Int) : Nat :=
  (n % UInt64.size).toNat

/-- The value of an operator. -/
def apply (op : String) (a b : Int) : Except Fault Int :=
  match op with
  | "+" => .ok (wrapped (a + b))
  | "-" => .ok (wrapped (a - b))
  | "*" => .ok (wrapped (a * b))
  | "/" => if b = 0 then .error .divisionByZero else .ok (wrapped (Int.tdiv a b))
  | "%" => if b = 0 then .error .divisionByZero else .ok (Int.tmod a b)
  | "<" => .ok (truth (a < b))
  | ">" => .ok (truth (b < a))
  | "<=" => .ok (truth (a ≤ b))
  | ">=" => .ok (truth (b ≤ a))
  | "==" => .ok (truth (a == b))
  | "!=" => .ok (truth (a != b))
  | "<<" => .ok (wrapped (a * Nat.pow 2 (bits b % 64)))
  | ">>" => .ok (Int.fdiv a (Nat.pow 2 (bits b % 64)))
  | "&" => .ok (wrapped (bits a &&& bits b : Nat))
  | "^" => .ok (wrapped (bits a ^^^ bits b : Nat))
  | "|" => .ok (wrapped (bits a ||| bits b : Nat))
  | _ => .ok b

/-- The value of a variable that has a text; one without is zero, and so is one that is blank. -/
def valueOf (values : Table String) (name : String) : Except Fault Int :=
  match Table.find? name values with
  | none => .ok 0
  | some text =>
    match leadingInteger? text.toList with
    | some (n, rest) =>
      if rest.all isBlank && isInRange n then .ok n else .error (.illegalNumber text)
    | none => if text.toList.all isBlank then .ok 0 else .error (.illegalNumber text)

/-- The value of an expression, and the variables after it. -/
def Expr.eval (values : Table String) : Expr → Except Fault (Int × Table String)
  | number n => .ok (wrapped n, values)
  | named name => do return (← valueOf values name, values)
  | unary op a => do
    let (n, values) ← a.eval values
    let value := match op with
      | '-' => wrapped (-n)
      | '!' => truth (n == 0)
      | '~' => -n - 1
      | _ => n
    return (value, values)
  | binary op a b => do
    let (n, after) ← a.eval values
    if op = "&&" && n = 0 then return (0, after)
    else if op = "||" && n ≠ 0 then return (1, after)
    else
      let (m, after) ← b.eval after
      if op = "&&" || op = "||" then return (truth (m != 0), after)
      else return (← apply op n m, after)
  | choice condition a b => do
    let (n, after) ← condition.eval values
    if n ≠ 0 then a.eval after else b.eval after
  | assign name op a => do
    let (n, after) ← a.eval values
    let value ← if op.isEmpty then .ok n else apply op (← valueOf after name) n
    return (value, Table.insert name (Decimal.intText value) after)

/-- The value of a text, and the variables after it. -/
def evaluate (values : Table String) (cs : List Char) : Except Fault (Int × Table String) := do
  (← read cs).eval values

end LayerNet.Shell.Arithmetic
