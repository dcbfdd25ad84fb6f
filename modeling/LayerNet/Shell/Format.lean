import LayerNet.Decimal.Layout
import LayerNet.Decimal.Places
import LayerNet.Shell.Arithmetic
import LayerNet.Shell.Escapes
import LayerNet.Shell.Tools.Quoting
import LayerNet.Text.Search

/-!
# Formats

Arguments written in a format, which is used again while there are arguments.  The command of the
shell and the tool of the same name do so, with their own escapes, conversions and complaints.

Main definitions:

- `FormatDialect`: which of the two commands writes.
- `Conversion`: what a percent sign in a format asks for.
- `Conversion.integer`, `Conversion.float`: numbers as a conversion writes them.
- `Formatted.all`: arguments in a format.
-/

namespace LayerNet.Shell

/-- Which command writes a format: the one of the shell, or the tool of the same name. -/
inductive FormatDialect where
  | shell
  | tool
deriving DecidableEq, Repr

/-- A conversion in a format: its flags, width, precision and letter. -/
structure Conversion where
  left : Bool := false
  zeros : Bool := false
  plus : Bool := false
  blank : Bool := false
  alternative : Bool := false
  width : Nat := 0
  precision : Option Nat := none
  letter : Char := 's'

namespace Conversion

/-! ## Writing -/

/-- A text filled up to the width. -/
def padded (c : Conversion) (text : List Char) : List Char :=
  let fill := List.replicate (c.width - text.length) ' '
  if c.left then text ++ fill else fill ++ text

/-- A number filled up to the width, with zeros behind its front if they are wanted. -/
def paddedNumber (c : Conversion) (zeros : Bool) (front digits : List Char) : List Char :=
  if zeros && !c.left then
    front ++ List.replicate (c.width - front.length - digits.length) '0' ++ digits
  else c.padded (front ++ digits)

/-- The sign in front of a number. -/
def sign (c : Conversion) (negative : Bool) : List Char :=
  if negative then ['-'] else if c.plus then ['+'] else if c.blank then [' '] else []

/-- An integer; a negative one counts from the largest down if no sign is wanted. -/
def integer (c : Conversion) (n : Int) : List Char :=
  let signed := c.letter = 'd' || c.letter = 'i'
  let size := if signed then n.natAbs else Arithmetic.bits n
  let digits := match c.letter with
    | 'o' => Nat.toDigits 8 size
    | 'x' => Nat.toDigits 16 size
    | 'X' => (Nat.toDigits 16 size).map Char.toUpper
    | _ => Decimal.digits size
  let digits := if size = 0 && c.precision = some 0 then [] else digits
  let digits := List.replicate (c.precision.getD 0 - digits.length) '0' ++ digits
  let digits :=
    if c.alternative && c.letter = 'o' && digits.head? ≠ some '0' then '0' :: digits else digits
  let base : List Char :=
    if c.alternative && size ≠ 0 && (c.letter = 'x' || c.letter = 'X') then ['0', c.letter] else []
  let front := (if signed then c.sign (n < 0) else []) ++ base
  c.paddedNumber (c.zeros && c.precision.isNone) front digits

/-- The digits of a float as `%a` writes them. -/
def hexDigits (b : Binary) : List Char :=
  if b.significand = 0 then "0x0p+0".toList
  else
    let bits := Nat.log2 b.significand
    let scaled := b.significand * Nat.pow 2 (52 - bits)
    let fraction := Nat.toDigits 16 (scaled % Nat.pow 2 52)
    let fraction := List.replicate (13 - fraction.length) '0' ++ fraction
    let fraction := (fraction.reverse.dropWhile (· = '0')).reverse
    let exponent := b.scale + bits
    let sign := if exponent < 0 then '-' else '+'
    "0x1".toList ++ (if fraction.isEmpty then [] else '.' :: fraction)
      ++ 'p' :: sign :: Decimal.digits exponent.natAbs

/-- The digits of a float with all zeros behind the point that the precision asks for. -/
def generalWithZeros (b : Binary) (precision : Nat) : List Char :=
  let text := Decimal.generalPlaces b precision
  let mantissa := text.takeWhile (· ≠ 'e')
  let rest := text.drop mantissa.length
  let digits := (mantissa.filter Char.isDigit).dropWhile (· = '0')
  let count := if digits.isEmpty then 1 else digits.length
  let pointed := if mantissa.contains '.' then mantissa else mantissa ++ ['.']
  pointed ++ List.replicate (max 1 precision - count) '0' ++ rest

/-- A float. -/
def float (c : Conversion) (x : Float) : List Char :=
  let places := c.precision.getD 6
  let plain (b : Binary) : List Char :=
    match c.letter.toLower with
    | 'f' =>
      let ds := Decimal.fixedPlaces b places
      if c.alternative && places = 0 then ds ++ ['.'] else ds
    | 'e' => Decimal.scientificPlaces b places
    | 'a' => hexDigits b
    | _ => if c.alternative then generalWithZeros b places else Decimal.generalPlaces b places
  let shown := if x.isNaN then "nan".toList
    else if x.isInf then "inf".toList
    else plain (Binary.ofFloat x)
  let shown := if c.letter.isUpper then shown.map Char.toUpper else shown
  c.paddedNumber (c.zeros && x.isFinite) (c.sign (Decimal.Layout.isNegative x)) shown

end Conversion

/-! ## Arguments as numbers -/

/-- Why an argument of a format is not the number that it should be. -/
inductive NumberFault where
  | noNumber
  | partly
  | outOfRange
deriving DecidableEq, Repr

/-- What is wrong with a format, or with an argument of it. -/
inductive FormatFault where
  | number (argument : String) (fault : NumberFault)
  | behindCharacter (text : List Char)
  | directive (text : List Char)
  | noLetter
  | noHexDigit
  | unused (argument : String)
deriving DecidableEq, Repr

namespace FormatFault

/-- What the command of the shell says of a fault. -/
def shellMessage : FormatFault → String
  | number argument .noNumber => argument ++ ": expected numeric value"
  | number argument .partly => argument ++ ": not completely converted"
  | number argument .outOfRange => argument ++ ": Numerical result out of range"
  | directive text => "%" ++ String.ofList text ++ ": invalid directive"
  | noLetter => "missing format character"
  | behindCharacter _ | noHexDigit | unused _ => ""

/-- What the tool says of a fault. -/
def toolMessage : FormatFault → String
  | number argument .noNumber => quoted argument ++ ": expected a numeric value"
  | number argument .partly => quoted argument ++ ": value not completely converted"
  | number argument .outOfRange => quoted argument ++ ": Numerical result out of range"
  | behindCharacter text =>
    "warning: " ++ String.ofList text
      ++ ": character(s) following character constant have been ignored"
  | directive text => "%" ++ String.ofList text ++ ": invalid conversion specification"
  | noLetter => "%: invalid conversion specification"
  | noHexDigit => "missing hexadecimal number in escape"
  | unused argument =>
    "warning: ignoring excess arguments, starting with " ++ quoted argument

/-- Whether a fault leaves the status as it is. -/
def isWarning : FormatFault → Bool
  | behindCharacter _ | unused _ => true
  | _ => false

end FormatFault

/-- The integer that an argument of a format writes, within bounds; a character behind a quotation
mark is its number. -/
def formatInteger (low high : Int) (argument : String) : Int × Option NumberFault :=
  match argument.toList with
  | [] => (0, none)
  | '\'' :: cs | '"' :: cs => ((cs.head?.map Char.toNat).getD 0, none)
  | cs =>
    match Arithmetic.leadingInteger? cs with
    | none => (0, some .noNumber)
    | some (n, rest) =>
      let bounded := max low (min high n)
      let fault := if !rest.isEmpty then some .partly
        else if bounded ≠ n then some .outOfRange
        else none
      (bounded, fault)

/-- The characters in front of a text that write a float. -/
def floatInFront (cs : List Char) : List Char :=
  let sign := cs.takeWhile fun c => c = '+' || c = '-'
  let sign := sign.take 1
  let cs := cs.drop sign.length
  let lower := cs.map Char.toLower
  let word? := ["infinity", "inf", "nan"].find? fun w => w.toList.isPrefixOf lower
  match word? with
  | some word => sign ++ cs.take word.length
  | none =>
    let whole := cs.takeWhile Char.isDigit
    let behind := cs.drop whole.length
    let fraction := match behind with
      | '.' :: ds => '.' :: ds.takeWhile Char.isDigit
      | _ => []
    if whole.isEmpty && fraction.length ≤ 1 then []
    else
      let exponent := match behind.drop fraction.length with
        | e :: ds =>
          let sign := (ds.takeWhile fun c => c = '+' || c = '-').take 1
          let digits := (ds.drop sign.length).takeWhile Char.isDigit
          if (e = 'e' || e = 'E') && !digits.isEmpty then e :: sign ++ digits else []
        | [] => []
      sign ++ whole ++ fraction ++ exponent

/-- The float in front of a text, and what follows it. -/
def leadingFloat? (cs : List Char) : Option (Float × List Char) :=
  let cs := cs.dropWhile Arithmetic.isBlank
  let front := floatInFront cs
  let digits := if front.head? = some '+' then front.tail else front
  if front.isEmpty then none
  else (Decimal.float? (String.ofList digits)).map fun x => (x, cs.drop front.length)

/-- The float that an argument of a format writes. -/
def formatFloat (argument : String) : Float × Option NumberFault :=
  match argument.toList with
  | [] => (0, none)
  | '\'' :: cs | '"' :: cs => (((cs.head?.map Char.toNat).getD 0).toFloat, none)
  | cs =>
    match leadingFloat? cs with
    | none => (0, some .noNumber)
    | some (x, rest) =>
      let fault := if !rest.isEmpty then some .partly
        else if x.isInf && cs.any Char.isDigit then some .outOfRange
        else none
      (x, fault)

/-! ## Formats -/

/-- The output of a format so far. -/
structure Formatted where
  dialect : FormatDialect
  /-- in reverse -/
  text : List Char := []
  arguments : List String
  stops : Bool := false
  /-- what is wrong, in reverse -/
  faults : List FormatFault := []
  /-- whether the format itself is wrong -/
  invalid : Bool := false
  /-- whether an argument was used -/
  uses : Bool := false

namespace Formatted

/-- The output with further characters. -/
def add (f : Formatted) (cs : List Char) : Formatted :=
  { f with text := cs.reverse ++ f.text }

/-- The output with faults of a number that an argument should be. -/
def complaining (f : Formatted) (argument : String) (fault : Option NumberFault) : Formatted :=
  let behind : List FormatFault := match argument.toList with
    | '\'' :: _ :: c :: cs | '"' :: _ :: c :: cs => [.behindCharacter (c :: cs)]
    | _ => []
  let behind := if f.dialect = .tool then behind else []
  { f with faults := (fault.map (.number argument)).toList ++ behind ++ f.faults }

/-- The output that ends because the format is wrong. -/
def refusing (f : Formatted) (why : FormatFault) : Formatted :=
  { f with faults := why :: f.faults, stops := true, invalid := true }

/-- The next argument, which is empty if there is none, and the output without it. -/
def next (f : Formatted) : String × Formatted :=
  (f.arguments.head?.getD "", { f with arguments := f.arguments.tail, uses := true })

/-- The next argument as an integer with a sign. -/
def nextInteger (f : Formatted) : Int × Formatted :=
  let (argument, f) := f.next
  let (n, fault) := formatInteger (-Nat.pow 2 63) (Nat.pow 2 63 - 1 : Nat) argument
  (n, f.complaining argument fault)

/-- Whether a conversion is refused by the tool: some letters do not go with some flags, and two
letters stand directly behind the percent sign. -/
def isRefused (f : Formatted) (c : Conversion) (text : List Char) : Bool :=
  f.dialect = .tool &&
    ((c.alternative && ['c', 'd', 'i', 's', 'u'].contains c.letter)
      || (c.zeros && ['c', 's'].contains c.letter)
      || (c.letter = 'c' && text.contains '.')
      || (['b', 'q'].contains c.letter && text.length ≠ 1))

/-- The output with the next argument in a conversion; `text` is how the conversion is written. -/
def convert (f : Formatted) (c : Conversion) (text : List Char) : Formatted :=
  let letter := c.letter
  let (argument, rest) := f.next
  if f.isRefused c text then f.refusing (.directive text)
  else if letter = 's' then
    let cs := argument.toList
    rest.add (c.padded (cs.take (c.precision.getD cs.length)))
  else if letter = 'c' then rest.add (c.padded [argument.toList.head?.getD '\x00'])
  else if letter = 'b' then
    let (cs, stops) := match f.dialect with
      | .shell => Escape.replaced argument.toList
      | .tool => Escape.replacedWide true argument.toList
    { rest.add (c.padded (cs.take (c.precision.getD cs.length))) with stops }
  else if letter = 'q' && f.dialect = .tool then rest.add (shownName argument).toList
  else if letter = 'd' || letter = 'i' then
    let (n, f) := f.nextInteger
    f.add (c.integer n)
  else if ['u', 'o', 'x', 'X'].contains letter then
    let (n, fault) := formatInteger (-Nat.pow 2 64) (Nat.pow 2 64 - 1 : Nat) argument
    (rest.add (c.integer n)).complaining argument fault
  else if ['a', 'A', 'e', 'E', 'f', 'F', 'g', 'G'].contains letter then
    let (x, fault) := formatFloat argument
    (rest.add (c.float x)).complaining argument fault
  else f.refusing (.directive text)

/-- The next number in a format: an argument for an asterisk, else digits, zero if there are
none. -/
def takeNumber (f : Formatted) (cs : List Char) : Int × Formatted × List Char :=
  match cs with
  | '*' :: cs =>
    let (n, f) := f.nextInteger
    (n, f, cs)
  | cs =>
    let (ds, cs) := Decimal.spanDigits cs
    (Decimal.natOfDigits ds, f, cs)

/-- The output with a conversion, read from behind its percent sign, and what follows it. -/
def conversion (f : Formatted) (cs : List Char) : Formatted × List Char :=
  let flagLetters := match f.dialect with
    | .shell => ['#', '-', '+', ' ', '0']
    | .tool => ['#', '-', '+', ' ', '0', '\'', 'I']
  let flags := cs.takeWhile flagLetters.contains
  let (width, f, rest) := f.takeNumber (cs.drop flags.length)
  let (precision, f, rest) : Option Int × Formatted × List Char := match rest with
    | '.' :: rest =>
      let (n, f, rest) := f.takeNumber rest
      (some n, f, rest)
    | rest => (none, f, rest)
  let rest := match f.dialect with
    | .shell => rest
    | .tool => rest.dropWhile ['h', 'l', 'L', 'j', 'z', 't'].contains
  match rest with
  | [] =>
    let text := cs.take (cs.length - rest.length)
    (f.refusing (if f.dialect = .tool then .directive text else .noLetter), [])
  | letter :: rest =>
    let c : Conversion :=
      { left := flags.contains '-' || width < 0
        zeros := flags.contains '0'
        plus := flags.contains '+'
        blank := flags.contains ' '
        alternative := flags.contains '#'
        width := width.natAbs
        precision := (precision.filter fun n => 0 ≤ n).map Int.toNat
        letter }
    (f.convert c (cs.take (cs.length - rest.length)), rest)

/-- The output with the character of an escape, read from behind its backslash, and what follows
it. -/
def escape (f : Formatted) (cs : List Char) : Formatted × List Char :=
  match f.dialect, cs with
  | .shell, cs =>
    let (c, rest) := Escape.read cs
    (f.add [c], rest)
  | .tool, 'c' :: rest => ({ f with stops := true }, rest)
  | .tool, '"' :: rest => (f.add ['"'], rest)
  | .tool, cs =>
    let (c, rest) := Escape.readWide cs
    if c = '\\' && cs.head? = some 'x' then (f.refusing .noHexDigit, rest) else (f.add [c], rest)

/-- Writes a format once. -/
def once : Nat → Formatted → List Char → Formatted
  | 0, f, _ => f
  | fuel + 1, f, cs =>
    if f.stops then f
    else
      match cs with
      | [] => f
      | '%' :: '%' :: cs => once fuel (f.add ['%']) cs
      | '%' :: cs =>
        let (f, rest) := f.conversion cs
        once fuel f rest
      | '\\' :: cs =>
        let (f, rest) := f.escape cs
        once fuel f rest
      | c :: cs => once fuel (f.add [c]) cs

/-- Writes a format until no argument is left, or none is used. -/
def all (format : List Char) : Nat → Formatted → Formatted
  | 0, f => f
  | fuel + 1, f =>
    let f := once (format.length + 1) { f with uses := false } format
    if f.stops then f
    else
      match f.arguments with
      | [] => f
      | argument :: _ =>
        if f.uses then all format fuel f else { f with faults := .unused argument :: f.faults }

/-- Arguments in a format. -/
def ofArguments (dialect : FormatDialect) (format : String) (arguments : List String) :
    Formatted :=
  all format.toList (arguments.length + 1) { dialect, arguments }

/-- What is said of the faults, in the order in which they were found. -/
def messages (f : Formatted) : List String :=
  match f.dialect with
  | .shell => (f.faults.reverse.map FormatFault.shellMessage).filter (!·.isEmpty)
  | .tool => f.faults.reverse.map FormatFault.toolMessage

/-- Whether a fault changes the status. -/
def fails (f : Formatted) : Bool :=
  f.faults.any fun fault => !fault.isWarning

end Formatted

end LayerNet.Shell
