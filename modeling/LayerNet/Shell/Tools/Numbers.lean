import LayerNet.Shell.Format
import LayerNet.Shell.Regex.Search
import LayerNet.Shell.Tools.Input
import LayerNet.Shell.Tools.Options

/-!
# Tools for numbers

Main definitions:

- `seqTool`: numbers in a row.
- `factorTool`: prime factors.
-/

namespace LayerNet.Shell

/-! ## Numbers in a row -/

/-- A decimal number as an argument writes it: its value times a power of ten, the digits behind its
point, and the width that it takes. -/
structure RowNumber where
  scaled : Int
  places : Nat
  width : Nat

/-- The number that an argument writes. -/
def RowNumber.read (text : String) : Option RowNumber :=
  let cs := text.toList.dropWhile Arithmetic.isBlank
  let cs := if cs.head? = some '+' then cs.tail else cs
  let isNegative := cs.head? = some '-'
  let body := if isNegative then cs.tail else cs
  let signed (n : Nat) : Int := if isNegative then -(n : Int) else n
  match body with
  | '0' :: x :: digits =>
    if (x = 'x' || x = 'X') then
      match Arithmetic.integer? body with
      | some n => some ⟨if isNegative then -n else n, 0, cs.length⟩
      | none => none
    else plain cs body ('0' :: x :: digits) signed
  | body => plain cs body body signed
where
  /-- The number that digits with a point and an exponent write. -/
  plain (cs body digits : List Char) (signed : Nat → Int) : Option RowNumber :=
    let whole := digits.takeWhile Char.isDigit
    let behind := digits.drop whole.length
    let fraction := match behind with
      | '.' :: ds => ds.takeWhile Char.isDigit
      | _ => []
    let pointed := behind.head? = some '.'
    let rest := if pointed then behind.drop (fraction.length + 1) else behind
    let exponent? : Option Int := match rest with
      | [] => some 0
      | e :: ds =>
        let (negative, ds) := match ds with
          | '-' :: ds => (true, ds)
          | '+' :: ds => (false, ds)
          | ds => (false, ds)
        if (e = 'e' || e = 'E') && !ds.isEmpty && ds.all Char.isDigit then
          let n : Int := Decimal.natOfDigits ds
          some (if negative then -n else n)
        else none
    if whole.isEmpty && fraction.isEmpty then none
    else
      exponent?.map fun exponent =>
        let value := Decimal.natOfDigits (whole ++ fraction)
        let power : Int := exponent - fraction.length
        let front := cs.length - body.length
        let places := (-power).toNat
        let scaled := if 0 ≤ power then value * Nat.pow 10 power.toNat else value
        let width := if rest.isEmpty then
            cs.length + (if whole.isEmpty then 1 else 0)
              - (if pointed && fraction.isEmpty then 1 else 0)
          else front + max 1 (whole.length + exponent).toNat
              + (if places = 0 then 0 else places + 1)
        ⟨signed scaled, places, width⟩

/-- The value times a larger power of ten. -/
def RowNumber.at (n : RowNumber) (places : Nat) : Int :=
  n.scaled * (Nat.pow 10 (places - n.places) : Nat)

/-- A value that was multiplied by a power of ten, with a number of digits behind its point. -/
def fixedText (value : Int) (places : Nat) : List Char :=
  let digits := Decimal.digits value.natAbs
  let digits := List.replicate (places + 1 - digits.length) '0' ++ digits
  let front := digits.take (digits.length - places)
  (if value < 0 then ['-'] else [])
    ++ if places = 0 then front else front ++ '.' :: digits.drop (digits.length - places)

/-- A number filled up with zeros behind its sign. -/
def zeroFilled (width : Nat) (text : List Char) : List Char :=
  match text with
  | '-' :: digits => '-' :: List.replicate (width - text.length) '0' ++ digits
  | digits => List.replicate (width - text.length) '0' ++ digits

/-- A format for numbers: the text in front of the number and behind it, and how it is written. -/
structure RowFormat where
  front : List Char
  conversion : Conversion
  back : List Char

/-- Text up to a percent sign that stands for more than itself. -/
def formatText : List Char → List Char × List Char
  | '%' :: '%' :: cs =>
    let (text, rest) := formatText cs
    ('%' :: text, rest)
  | '%' :: cs => ([], '%' :: cs)
  | c :: cs =>
    let (text, rest) := formatText cs
    (c :: text, rest)
  | [] => ([], [])

/-- The format that a text writes, or what is wrong with it. -/
def RowFormat.read (text : String) : Except String RowFormat :=
  let refuse (why : String) : Except String RowFormat := .error ("format " ++ quoted text ++ why)
  let (front, rest) := formatText text.toList
  match rest with
  | [] => refuse " has no % directive"
  | _ :: cs =>
    let flags := cs.takeWhile fun c => ['-', '+', '#', '0', ' ', '\''].contains c
    let cs := cs.drop flags.length
    let width := cs.takeWhile Char.isDigit
    let cs := cs.drop width.length
    let (precision, cs) := match cs with
      | '.' :: cs =>
        let ds := cs.takeWhile Char.isDigit
        (some (Decimal.natOfDigits ds), cs.drop ds.length)
      | cs => (none, cs)
    match cs with
    | [] => refuse " ends in %"
    | letter :: cs =>
      if !"efgaEFGA".toList.contains letter then
        refuse (" has unknown %" ++ String.singleton letter ++ " directive")
      else
        let (back, rest) := formatText cs
        if !rest.isEmpty then refuse " has too many % directives"
        else
          let conversion : Conversion :=
            { left := flags.contains '-', zeros := flags.contains '0', plus := flags.contains '+'
              blank := flags.contains ' ', alternative := flags.contains '#'
              width := Decimal.natOfDigits width, precision, letter }
          .ok { front, conversion, back }

/-- A number in a format. -/
def RowFormat.shown (f : RowFormat) (value : Int) (places : Nat) : List Char :=
  let x := Decimal.nearest (value < 0) value.natAbs (-(places : Int))
  f.front ++ f.conversion.float x ++ f.back

/-- Arguments of which those behind the options are marked as operands: a number below zero is
one. -/
def markedOperands : List String → List String
  | [] => []
  | a :: rest =>
    match a.toList with
    | ['-', '-'] => a :: rest
    | '-' :: c :: _ =>
      if c.isDigit || c = '.' then "--" :: a :: rest
      else if a = "-s" || a = "-f" || a = "--separator" || a = "--format" then
        match rest with
        | value :: rest => a :: value :: markedOperands rest
        | [] => [a]
      else a :: markedOperands rest
    | _ => "--" :: a :: rest

/-- The three numbers of a row: the first one, the step and the last one. -/
def rowOf (operands : List String) : Except String (RowNumber × RowNumber × RowNumber) := do
  let one : RowNumber := ⟨1, 0, 1⟩
  let number (text : String) : Except String RowNumber :=
    match RowNumber.read text with
    | some n => .ok n
    | none =>
      if text.toLower = "nan" || text.toLower = "-nan" then
        .error ("invalid 'not-a-number' argument: " ++ quoted text)
      else .error ("invalid floating point argument: " ++ quoted text)
  match operands with
  | [] => throw "missing operand"
  | [last] => return (one, one, ← number last)
  | [first, last] => return (← number first, one, ← number last)
  | [first, step, last] =>
    let (first, increment) := (← number first, ← number step)
    if increment.scaled = 0 then throw ("invalid Zero increment value: " ++ quoted step)
    return (first, increment, ← number last)
  | _ :: _ :: _ :: extra :: _ => throw ("extra operand " ++ quoted extra)

/-- The width that all numbers of a row have. -/
def rowWidth (first last : RowNumber) (places : Nat) : Nat :=
  let firstWidth := first.width + (places - first.places)
    + (if first.places = 0 && places ≠ 0 then 1 else 0)
  let lastWidth := last.width + places - last.places
    + (if last.places = 0 && places ≠ 0 then 1 else 0)
    - (if last.places ≠ 0 && places = 0 then 1 else 0)
  max firstWidth lastWidth

/-- Writes numbers in a row. -/
def seqTool (tool : String) (arguments : List String) : Run Nat := do
  let table := OptionTable.ofText "f:s:w"
    [("format", 'f'), ("separator", 's'), ("equal-width", 'w')]
  withOptions tool 1 table (markedOperands arguments) fun o => do
    let refuse (why : String) : Run Nat := do
      complainOfUsage tool why
      return 1
    if o.operands.isEmpty then return ← refuse "missing operand"
    if let some extra := o.operands[3]? then return ← refuse ("extra operand " ++ quoted extra)
    match (o.value? 'f').mapM RowFormat.read with
    | .error why => failing 1 tool why
    | .ok format? =>
      if format?.isSome && o.has 'w' then
        return ← refuse "format string may not be specified when printing equal width strings"
      match rowOf o.operands with
      | .error why => refuse why
      | .ok (first, step, last) =>
        let places := max first.places step.places
        let most := max places last.places
        let (a, d, z) := (first.at most, step.at most, last.at most)
        let count := if d < 0 then if a < z then 0 else ((a - z) / (-d) + 1).toNat
          else if z < a then 0 else ((z - a) / d + 1).toNat
        let limit := max 1000000 (← endlessSize)
        let width := if o.has 'w' then rowWidth first last places else 0
        let separator := ((o.value? 's').getD "\n").toList
        let shown (i : Nat) : List Char :=
          let value := first.at places + step.at places * i
          match format? with
          | some f => f.shown value places
          | none => zeroFilled width (fixedText value places)
        unless count = 0 do
          outChars (separator.intercalate ((List.range (min count limit)).map shown) ++ ['\n'])
        if limit < count then starve
        return 0

/-! ## Factors -/

/-- The prime factors of a number from a divisor on. -/
def primeFactors : Nat → Nat → Nat → List Nat
  | 0, _, n => if n ≤ 1 then [] else [n]
  | fuel + 1, d, n =>
    if n ≤ 1 then []
    else if n < d * d then [n]
    else if n % d = 0 then d :: primeFactors fuel d (n / d)
    else primeFactors fuel (if d = 2 then 3 else d + 2) n

/-- Writes the prime factors of numbers. -/
def factorTool (tool : String) (arguments : List String) : Run Nat := do
  withOptions tool 1 (OptionTable.ofText "h" [("exponents", 'h')]) arguments fun o => do
    let numbers ← if !o.operands.isEmpty then pure o.operands
      else
        match ← readStandard 0 with
        | .ok a => pure ((splitAtBlanks (charsOf a.bytes)).map String.ofList)
        | .error _ => pure []
    let mut status := 0
    for text in numbers do
      let digits := if text.startsWith "+" then String.ofList text.toList.tail else text
      match natOf? digits with
      | some n =>
        let factors := (primeFactors (stepsFor n) 2 n).map Decimal.natText
        out (Decimal.natText n ++ ":" ++ String.join (factors.map (" " ++ ·)) ++ "\n")
      | none =>
        complain (tool ++ ": " ++ quoted text ++ " is not a valid positive integer")
        status := 1
    return status
where
  /-- The parts of a text between blanks. -/
  splitAtBlanks (cs : List Char) : List (List Char) :=
    (cs.splitBy fun a b => Arithmetic.isBlank a = Arithmetic.isBlank b).filter fun part =>
      part.head?.all fun c => !Arithmetic.isBlank c
  /-- A number of steps that is enough to reach the square root of a number. -/
  stepsFor (n : Nat) : Nat :=
    Nat.pow 2 (Nat.log2 n / 2 + 1) + Nat.log2 n + 2

end LayerNet.Shell
