import LayerNet.Shell.CharSet
import LayerNet.Decimal.Digits

/-!
# Regular expressions

Regular expressions as tools for texts write them, in the basic and in the extended form.  A text is
a list of characters, each of them a byte.

Main definitions:

- `Regex`: expressions.
- `Regex.read`: an expression from its text, or what is wrong with it.
-/

namespace LayerNet.Shell

/-! ## Expressions -/

/-- What an expression can ask of a place in a text. -/
inductive Place where
  | lineStart
  | lineEnd
  | textStart
  | textEnd
  | wordStart
  | wordEnd
  | wordEdge
  | noWordEdge
  | noWordBefore
  | noWordAfter
deriving DecidableEq, Repr

/-- A regular expression.  Groups are numbered from one on. -/
inductive Regex where
  | nothing
  | one (set : CharSet)
  | place (place : Place)
  | both (a b : Regex)
  | either (a b : Regex)
  | repeated (a : Regex) (least : Nat) (most : Option Nat)
  | group (number : Nat) (a : Regex)
  | backReference (number : Nat)
deriving Repr

/-- Why a text writes no expression. -/
inductive RegexFault where
  | unmatchedOpening
  | unmatchedClosing
  | unmatchedBracket
  | unmatchedBrace
  | invalidContent
  | invalidClass
  | invalidCollation
  | invalidRange
  | invalidReference
  | invalidPreceding
  | invalid
  | trailingBackslash
  | tooBig
  | classOutsideBrackets
deriving DecidableEq, Repr

/-- What is said of a fault. -/
def RegexFault.message : RegexFault → String
  | unmatchedOpening => "Unmatched ( or \\("
  | unmatchedClosing => "Unmatched ) or \\)"
  | unmatchedBracket => "Unmatched [, [^, [:, [., or [="
  | unmatchedBrace => "Unmatched \\\x7b"
  | invalidContent => "Invalid content of \\\x7b\\\x7d"
  | invalidClass => "Invalid character class name"
  | invalidCollation => "Invalid collation character"
  | invalidRange => "Invalid range end"
  | invalidReference => "Invalid back reference"
  | invalidPreceding => "Invalid preceding regular expression"
  | invalid => "Invalid regular expression"
  | trailingBackslash => "Trailing backslash"
  | tooBig => "Regular expression too big"
  | classOutsideBrackets => "character class syntax is [[:space:]], not [:space:]"

/-- How expressions are written: whether operators stand without backslashes, whether an operator
with nothing to repeat is a fault, whether operators may follow each other in the basic form (a
brace with nothing to repeat stands for itself then), whether braces that give no numbers stand
for themselves, and whether a parenthesis that closes nothing does. -/
structure RegexStyle where
  isExtended : Bool := false
  refusesLonely : Bool := false
  repeatsTwice : Bool := false
  allowsLooseBraces : Bool := false
  allowsLooseClosing : Bool := false

/-- The set of all characters. -/
def CharSet.all : CharSet :=
  { negated := true }

/-- The characters that belong to words. -/
def CharSet.word : CharSet :=
  { classes := [.alnum], ranges := [('_', '_')] }

/-- The characters that are blank. -/
def CharSet.space : CharSet :=
  { classes := [.space] }

namespace Regex

/-! ## Brackets -/

/-- The characters up to a sign followed by a closing bracket, and those behind the two. -/
def upToClosing (sign : Char) (inner : List Char) : List Char → Option (List Char × List Char)
  | [] => none
  | [_] => none
  | c :: d :: cs =>
    if c = sign && d = ']' then some (inner.reverse, cs)
    else upToClosing sign (c :: inner) (d :: cs)

/-- A character in brackets that may begin or end a range, and what follows. -/
def bracketChar (cs : List Char) : Except RegexFault (Char × List Char) :=
  match cs with
  | [] => .error .unmatchedBracket
  | '[' :: sign :: rest =>
    if sign = '.' || sign = '=' then
      match upToClosing sign [] rest with
      | some ([c], rest) => .ok (c, rest)
      | some _ => .error .invalidCollation
      | none => .error .unmatchedBracket
    else .ok ('[', sign :: rest)
  | c :: rest => .ok (c, rest)

/-- Reads the members of a set up to behind its closing bracket. -/
def readMembers : Nat → CharSet → Bool → List Char → Except RegexFault (CharSet × List Char)
  | 0, _, _, _ => .error .unmatchedBracket
  | fuel + 1, set, isFirst, cs =>
    match cs with
    | [] => .error .unmatchedBracket
    | '[' :: ':' :: rest =>
      match upToClosing ':' [] rest with
      | none => .error .unmatchedBracket
      | some (name, rest) =>
        match CharClass.ofName? (String.ofList name) with
        | none => .error .invalidClass
        | some cls => readMembers fuel { set with classes := cls :: set.classes } false rest
    | c :: rest =>
      if c = ']' && !isFirst then .ok (set, rest)
      else do
        let (low, rest) ← bracketChar (c :: rest)
        match rest with
        | '-' :: high :: more =>
          if high = ']' then readMembers fuel (set.withChar low) false rest
          else
            let (high, rest) ← bracketChar (high :: more)
            if high < low then .error .invalidRange
            else readMembers fuel (set.withRange low high) false rest
        | rest => readMembers fuel (set.withChar low) false rest

/-- Whether the characters of a set are the name of a class that lacks its own brackets. -/
def isLooseClass (set : CharSet) (inner : List Char) : Bool :=
  inner.head? = some ':' && inner.getLast? = some ':' && inner.any (· ≠ ':')
    && set.classes.isEmpty && set.ranges.all fun r => r.1 == r.2

/-- Reads a set from behind its opening bracket. -/
def readSet (cs : List Char) : Except RegexFault (CharSet × List Char) := do
  let negated := cs.head? = some '^'
  let cs := if negated then cs.tail else cs
  if cs.isEmpty then throw .invalid
  let (set, rest) ← readMembers (cs.length + 1) { negated } true cs
  if isLooseClass set (cs.take (cs.length - rest.length - 1)) then throw .classOutsideBrackets
  return (set, rest)

/-! ## Repetitions -/

/-- The largest number of repetitions. -/
def mostRepetitions : Nat := 32767

/-- What stands in front of a number of repetitions, up to the comma or the brace behind it: no
number, one, or something else. -/
inductive Count where
  | absent
  | number (n : Nat)
  | other
deriving DecidableEq, Repr

/-- Reads a number of repetitions; gives whether a brace ends it, and what follows the comma or
brace.  Nothing follows if the text ends before. -/
def readCount (isExtended : Bool) (count : Count) :
    List Char → Option (Count × Bool × List Char)
  | [] => none
  | ',' :: cs => some (count, false, cs)
  | '\\' :: c :: cs =>
    if !isExtended && c = '\x7d' then some (count, true, cs) else readCount isExtended .other cs
  | c :: cs =>
    if isExtended && c = '\x7d' then some (count, true, cs)
    else
      let next : Count :=
        if !c.isDigit then .other
        else
          match count with
          | .absent => .number (c.toNat - 48)
          | .number n => .number (min (mostRepetitions + 1) (10 * n + (c.toNat - 48)))
          | .other => .other
      readCount isExtended next cs

/-- Reads the bounds of a repetition from behind the opening brace; none where the brace stands for
itself. -/
def readBounds (style : RegexStyle) (cs : List Char) :
    Except RegexFault (Option (Nat × Option Nat × List Char)) :=
  let loose (fault : RegexFault) : Except RegexFault (Option (Nat × Option Nat × List Char)) :=
    if style.allowsLooseBraces then .ok none else .error fault
  let checked (least : Nat) (most : Option Nat) (rest : List Char) :
      Except RegexFault (Option (Nat × Option Nat × List Char)) :=
    if (most.map fun m => decide (m < least)).getD false then .error .invalidContent
    else if mostRepetitions < most.getD least then .error .tooBig
    else .ok (some (least, most, rest))
  match readCount style.isExtended .absent cs with
  | none => loose .unmatchedBrace
  | some (.absent, true, _) => .error .invalidContent
  | some (.other, _, _) => loose .invalidContent
  | some (.number n, true, rest) => checked n (some n) rest
  | some (first, false, rest) =>
    let least := match first with
      | .number n => n
      | _ => 0
    match readCount style.isExtended .absent rest with
    | none => loose .unmatchedBrace
    | some (.other, _, _) => loose .invalidContent
    | some (_, false, _) => .error .invalidContent
    | some (.absent, true, rest) => checked least none rest
    | some (.number n, true, rest) => checked least (some n) rest

/-! ## Reading -/

/-- How far an expression is read: what follows, how many groups were opened, and which of them are
complete. -/
structure Reading where
  rest : List Char
  opened : Nat := 0
  closed : List Nat := []

/-- The result of reading. -/
abbrev Result := Except RegexFault (Regex × Reading)

/-- What stands in front of a text. -/
inductive Sign where
  | ended
  | opening
  | closing
  | bar
  | star
  | plus
  | optional
  | brace
  | other
deriving DecidableEq, Repr

/-- The sign in front of a text, and what follows it. -/
def signOf (isExtended : Bool) (cs : List Char) : Sign × List Char :=
  let named (c : Char) (rest : List Char) : Sign × List Char :=
    match c with
    | '(' => (.opening, rest)
    | ')' => (.closing, rest)
    | '|' => (.bar, rest)
    | '+' => (.plus, rest)
    | '?' => (.optional, rest)
    | '\x7b' => (.brace, rest)
    | _ => (.other, cs)
  match cs with
  | [] => (.ended, [])
  | '*' :: rest => (.star, rest)
  | '\\' :: c :: rest => if isExtended then (.other, cs) else named c rest
  | c :: rest => if isExtended then named c rest else (.other, cs)

/-- Whether an anchor for the end of a line stands where it means that. -/
def endsLine (isExtended : Bool) (rest : List Char) : Bool :=
  isExtended || [Sign.ended, .closing, .bar].contains (signOf isExtended rest).1

/-- The set or place that a backslash and a character stand for. -/
def escaped (c : Char) : Option Regex :=
  match c with
  | 'w' => some (.one .word)
  | 'W' => some (.one { CharSet.word with negated := true })
  | 's' => some (.one .space)
  | 'S' => some (.one { CharSet.space with negated := true })
  | '<' => some (.place .wordStart)
  | '>' => some (.place .wordEnd)
  | 'b' => some (.place .wordEdge)
  | 'B' => some (.place .noWordEdge)
  | '\x60' => some (.place .textStart)
  | '\'' => some (.place .textEnd)
  | _ => none

/-- One character. -/
def char (c : Char) : Regex :=
  .one (CharSet.withChar {} c)

/-- An expression behind which no operator repeats anything. -/
def isPlace : Regex → Bool
  | place _ => true
  | _ => false

mutual

/-- Reads expressions of which one is chosen, up to what ends them. -/
def readChoices (style : RegexStyle) : Nat → Reading → Result
  | 0, _ => .error .tooBig
  | fuel + 1, r => do
    let (a, r) ← readRow style fuel true .nothing r
    match signOf style.isExtended r.rest with
    | (.bar, rest) =>
      let (b, r) ← readChoices style fuel { r with rest }
      return (.either a b, r)
    | _ => return (a, r)

/-- Reads expressions that follow `before`; `begins` tells whether nothing stands in front of them.
An operator that is met here has nothing to repeat. -/
def readRow (style : RegexStyle) : Nat → Bool → Regex → Reading → Result
  | 0, _, _, _ => .error .tooBig
  | fuel + 1, begins, before, r => do
    let more (a : Regex) (r : Reading) : Result :=
      let joined := match before with
        | .nothing => a
        | before => .both before a
      readRow style fuel false joined r
    let repeatable (a : Regex) (r : Reading) : Result := do
      let (a, r) ← readRepeats style fuel a r
      more a r
    let literal (c : Char) (rest : List Char) : Result :=
      repeatable (char c) { r with rest }
    let lonely (c : Char) (rest : List Char) : Result :=
      if style.isExtended then
        if style.refusesLonely then .error .invalidPreceding
        else readRow style fuel begins before { r with rest }
      else literal c rest
    match signOf style.isExtended r.rest with
    | (.ended, _) | (.bar, _) => return (before, r)
    | (.closing, rest) =>
      if r.opened ≤ r.closed.length then
        if style.allowsLooseClosing then literal ')' rest else .error .unmatchedClosing
      else return (before, r)
    | (.opening, rest) =>
      let number := r.opened + 1
      let (a, r) ← readChoices style fuel { r with rest, opened := number }
      match signOf style.isExtended r.rest with
      | (.closing, rest) =>
        repeatable (.group number a) { r with rest, closed := number :: r.closed }
      | _ => .error .unmatchedOpening
    | (.star, rest) => lonely '*' rest
    | (.plus, rest) => lonely '+' rest
    | (.optional, rest) => lonely '?' rest
    | (.brace, rest) =>
      if style.isExtended then
        match ← readBounds style rest with
        | none => literal '\x7b' rest
        | some (_, _, rest) => lonely '\x7b' rest
      else if style.repeatsTwice then literal '\x7b' rest
      else .error .invalidPreceding
    | (.other, _) =>
      match r.rest with
      | [] => return (before, r)
      | '.' :: rest => repeatable (.one .all) { r with rest }
      | '[' :: rest =>
        let (set, rest) ← readSet rest
        repeatable (.one set) { r with rest }
      | '^' :: rest =>
        if style.isExtended || begins then more (.place .lineStart) { r with rest }
        else literal '^' rest
      | '$' :: rest =>
        if endsLine style.isExtended rest then more (.place .lineEnd) { r with rest }
        else literal '$' rest
      | ['\\'] => .error .trailingBackslash
      | '\\' :: c :: rest =>
        if c.isDigit && c ≠ '0' then
          let number := c.toNat - 48
          if r.closed.contains number then repeatable (.backReference number) { r with rest }
          else .error .invalidReference
        else
          match escaped c with
          | some a => if a.isPlace then more a { r with rest } else repeatable a { r with rest }
          | none => literal c rest
      | c :: rest => literal c rest

/-- Reads the operators that repeat an expression. -/
def readRepeats (style : RegexStyle) : Nat → Regex → Reading → Result
  | 0, _, _ => .error .tooBig
  | fuel + 1, a, r => do
    let again (a : Regex) (rest : List Char) : Result :=
      let follows := (signOf style.isExtended rest).1
      if !style.isExtended && !style.repeatsTwice && (follows = .star || follows = .brace) then
        .error .invalidPreceding
      else readRepeats style fuel a { r with rest }
    match signOf style.isExtended r.rest with
    | (.star, rest) => again (.repeated a 0 none) rest
    | (.plus, rest) => again (.repeated a 1 none) rest
    | (.optional, rest) => again (.repeated a 0 (some 1)) rest
    | (.brace, rest) =>
      match ← readBounds style rest with
      | some (least, most, rest) => again (.repeated a least most) rest
      | none => return (a, r)
    | _ => return (a, r)

end

/-- The expression that a text writes, or what is wrong with it. -/
def read (style : RegexStyle) (text : List Char) : Except RegexFault Regex := do
  let (r, reading) ← readChoices style (6 * text.length + 16) { rest := text }
  if reading.rest.isEmpty then return r else throw .unmatchedClosing

/-- The expression that finds a text as it is. -/
def ofText (text : List Char) : Regex :=
  text.foldr
    (fun c r =>
      match r with
      | .nothing => char c
      | r => .both (char c) r)
    .nothing

end Regex

end LayerNet.Shell
