import LayerNet.Shell.Escapes
import LayerNet.Shell.Regex.Search
import LayerNet.Table

/-!
# Scripts of the stream editor

A script is a row of commands, each with the addresses of the lines that it is for.  Blocks and
jumps lead to places in the row.

Main definitions:

- `EditCommand`: commands.
- `EditScript.read`: a script from its text, or what is wrong with it and where.
-/

namespace LayerNet.Shell

/-! ## Commands -/

/-- Which lines a command is for: a line, the last one, every so many lines, or lines in which an
expression is found, the one that was used last if none is given.  As the end of a range also so
many lines more, or up to a multiple. -/
inductive EditAddress where
  | line (n : Nat)
  | every (first step : Nat)
  | last
  | matching (r : Option RegexProgram)
  | more (n : Nat)
  | multiple (n : Nat)

/-- How letters are changed in what takes the place of a match: all that follow, or the next one. -/
inductive CaseChange where
  | upper
  | lower
  | ended
  | nextUpper
  | nextLower
deriving DecidableEq, Repr

/-- A part of what takes the place of a match: text, what a group has found, or a change of case. -/
inductive ReplacementPart where
  | text (cs : List Char)
  | group (n : Nat)
  | change (c : CaseChange)

/-- A replacement: of which matches, by what, and what is done with the changed line. -/
structure Replacement where
  regex : Option RegexProgram
  parts : List ReplacementPart
  isGlobal : Bool := false
  number : Nat := 1
  prints : Bool := false
  target : Option String := none

/-- When a jump is made: always, if something was replaced, or if nothing was. -/
inductive JumpKind where
  | always
  | replaced
  | unreplaced
deriving DecidableEq, Repr

/-- What a command does. -/
inductive EditAction where
  | block (stop : Nat)
  | nothing
  | jump (kind : JumpKind) (label : String)
  | append (text : List Char)
  | insert (text : List Char)
  | change (text : List Char)
  | delete
  | deleteFirst
  | next
  | appendNext
  | print
  | printFirst
  | copyToHold
  | addToHold
  | copyFromHold
  | addFromHold
  | exchange
  | clear
  | quit (status : Nat) (prints : Bool)
  | list (width : Option Nat)
  | number
  | fileName
  | readFile (path : String)
  | readLine (path : String)
  | writeFile (path : String)
  | writeFirst (path : String)
  | replace (r : Replacement)
  | map (table : Array Char)

/-- A command with the lines that it is for. -/
structure EditCommand where
  first : Option EditAddress := none
  second : Option EditAddress := none
  negated : Bool := false
  action : EditAction := .nothing

instance : Inhabited EditCommand :=
  ⟨{}⟩

/-- A script: its commands, the places of its labels, and whether it says that lines are not written
on their own. -/
structure EditScript where
  commands : Array EditCommand := #[]
  labels : Table Nat := []
  isQuiet : Bool := false

/-- What is wrong with a script: how many characters were left, none if the place does not matter,
and the status. -/
structure EditFault where
  remaining : Option Nat
  text : String
  status : Nat := 1

namespace EditScript

/-! ## Reading characters -/

/-- Steps that read a script. -/
abbrev ScriptReader := StateT (List Char) (Except EditFault)

/-- Gives up behind what was read. -/
def refuse {α : Type} (text : String) : ScriptReader α := do
  throw { remaining := some (← get).length, text }

/-- The next character. -/
def nextChar : ScriptReader (Option Char) := do
  match ← get with
  | [] => return none
  | c :: cs =>
    set cs
    return some c

/-- Passes over blanks. -/
def skipBlanks : ScriptReader Unit :=
  modify fun cs => cs.dropWhile fun c => c = ' ' || c = '\t'

/-- The next character behind blanks. -/
def nextFilled : ScriptReader (Option Char) := do
  skipBlanks
  nextChar

/-- The next character, which is not passed over. -/
def look : ScriptReader (Option Char) :=
  return (← get).head?

/-- The number in front. -/
def readNumber : ScriptReader Nat := do
  let digits := (← get).takeWhile Char.isDigit
  modify fun cs => cs.drop digits.length
  return Decimal.natOfDigits digits

/-- Refuses anything behind a command but its end. -/
def endCommand : ScriptReader Unit := do
  skipBlanks
  match ← look with
  | none | some '\x7d' | some '#' => return ()
  | some c =>
    let _ ← nextChar
    unless c = '\n' || c = ';' do refuse "extra characters after command"

/-- Whether a character is blank or ends a line. -/
def isSpace (c : Char) : Bool :=
  c = ' ' || (9 ≤ c.toNat && c.toNat ≤ 13)

/-- The name in front of a blank, a semicolon or a brace. -/
def readLabel : ScriptReader String := do
  skipBlanks
  let label := (← get).takeWhile fun c => !(isSpace c || c = ';' || c = '\x7d')
  modify fun cs => cs.drop label.length
  return String.ofList label

/-- The path up to the end of the line. -/
def readPathName : ScriptReader String := do
  skipBlanks
  let path := (← get).takeWhile (· ≠ '\n')
  modify fun cs => cs.drop (path.length + 1)
  if path.isEmpty then refuse "missing filename in r/R/w/W commands"
  return String.ofList path

/-! ## Escapes -/

/-- The character of a number that some digits write, and what follows them; none if there are no
digits. -/
def numberedChar (base count : Nat) (cs : List Char) : Option (Char × List Char) :=
  let value (c : Char) : Nat :=
    if c.isDigit then c.toNat - 48
    else if 'a' ≤ c && c ≤ 'f' then c.toNat - 87
    else if 'A' ≤ c && c ≤ 'F' then c.toNat - 55
    else 99
  let digits := (cs.take count).takeWhile fun c => value c < base
  if digits.isEmpty then none
  else
    let n := digits.foldl (fun n c => base * n + value c) 0
    some (Char.ofNat (n % 256), cs.drop digits.length)

/-- The character that an escape stands for, read from behind its backslash, and what follows it; it
tells whether it was given by a number. -/
def escapedChar (cs : List Char) : Option (Char × Bool × List Char) :=
  let numbered (base count : Nat) (cs : List Char) : Option (Char × Bool × List Char) :=
    (numberedChar base count cs).map fun (c, rest) => (c, true, rest)
  match cs with
  | 'a' :: rest => some ('\x07', false, rest)
  | 'f' :: rest => some ('\x0c', false, rest)
  | 'r' :: rest => some ('\r', false, rest)
  | 't' :: rest => some ('\t', false, rest)
  | 'v' :: rest => some ('\x0b', false, rest)
  | 'c' :: c :: rest => some (Char.ofNat ((c.toUpper.toNat ^^^ 64) % 256), true, rest)
  | 'd' :: rest => numbered 10 3 rest
  | 'o' :: rest => numbered 8 3 rest
  | 'x' :: rest => numbered 16 2 rest
  | _ => none

/-- A text with the characters that escapes stand for; those with a meaning of their own that are
given by numbers are protected. -/
def withEscapes (special : List Char) : Nat → List Char → List Char
  | 0, cs => cs
  | _, [] => []
  | fuel + 1, c :: cs =>
    if c = '\\' then
      match escapedChar cs with
      | some (e, byNumber, rest) =>
        (if byNumber && special.contains e then ['\\', e] else [e]) ++ withEscapes special fuel rest
      | none =>
        match cs with
        | d :: cs => '\\' :: d :: withEscapes special fuel cs
        | [] => ['\\']
    else c :: withEscapes special fuel cs

/-! ## Delimited texts -/

/-- The characters of a bracket expression from behind its opening bracket, and what follows; an end
of a line is not passed. -/
def bracketText (cs : List Char) : List Char × List Char :=
  let (front, cs) := match cs with
    | '^' :: ']' :: cs => (['^', ']'], cs)
    | '^' :: cs => (['^'], cs)
    | ']' :: cs => ([']'], cs)
    | cs => ([], cs)
  let (inner, rest) := members (cs.length + 1) cs
  (front ++ inner, rest)
where
  /-- The characters up to the closing bracket. -/
  members : Nat → List Char → List Char × List Char
    | 0, cs => ([], cs)
    | _, [] => ([], [])
    | fuel + 1, c :: cs =>
      let put (front : List Char) (rest : List Char) : List Char × List Char :=
        let (inner, rest) := members fuel rest
        (front ++ inner, rest)
      if c = ']' then ([c], cs)
      else if c = '\n' then ([], c :: cs)
      else
        match c, cs with
        | '[', sign :: more =>
          if sign = ':' || sign = '.' || sign = '=' then
            match Regex.upToClosing sign [] more with
            | some (name, rest) => put (['[', sign] ++ name ++ [sign, ']']) rest
            | none => put [c] cs
          else put [c] cs
        | '\\', 'n' :: rest => put ['\n'] rest
        | '\\', ']' :: _ => put [c] cs
        | '\\', d :: rest => put [c, d] rest
        | _, _ => put [c] cs

/-- The text up to a delimiter, in reverse; none if it is missing. -/
def delimited (delimiter : Char) (isRegex : Bool) :
    Nat → List Char → ScriptReader (Option (List Char))
  | 0, _ => return none
  | fuel + 1, read => do
    match ← get with
    | [] => return none
    | c :: cs =>
      if c = delimiter then
        set cs
        return some read.reverse
      else if c = '\n' && isRegex then return none
      else if c = '\\' then
        match cs with
        | [] =>
          set cs
          return none
        | d :: rest =>
          set rest
          if d = delimiter then
            let kept := if !isRegex && d = '&' then ['&', '\\'] else [d]
            delimited delimiter isRegex fuel (kept ++ read)
          else if d = 'n' && isRegex then delimited delimiter isRegex fuel ('\n' :: read)
          else if d = '\n' && isRegex then delimited delimiter isRegex fuel ('\n' :: read)
          else delimited delimiter isRegex fuel (d :: '\\' :: read)
      else if c = '\n' then return none
      else if c = '[' && isRegex then
        let (inner, rest) := bracketText cs
        set rest
        delimited delimiter isRegex fuel (inner.reverse ++ c :: read)
      else
        set cs
        delimited delimiter isRegex fuel (c :: read)

/-- The text up to a delimiter, which must be there. -/
def readDelimited (delimiter : Char) (isRegex : Bool) (missing : String) :
    ScriptReader (List Char) := do
  match ← delimited delimiter isRegex ((← get).length + 1) [] with
  | some text => return text
  | none => refuse missing

/-! ## Expressions -/

/-- How expressions are written. -/
structure Style where
  isExtended : Bool := false
  isQuiet : Bool := false

/-- How expressions are read. -/
def Style.regexStyle (style : Style) : RegexStyle :=
  if style.isExtended then { isExtended := true, refusesLonely := true, repeatsTwice := true }
  else {}

/-- The characters that mean something in an expression. -/
def specialInRegex : List Char :=
  "*.[]^$\\/+?\x7b\x7d()|".toList

/-- The expression that a text writes; none if it is empty. -/
def compileRegex (style : Style) (text : List Char) (ignoreCase perLine : Bool) :
    ScriptReader (Option RegexProgram) := do
  if text.isEmpty then
    if ignoreCase || perLine then refuse "cannot specify modifiers on empty regexp"
    return none
  let text := withEscapes specialInRegex (text.length + 1) text
  match Regex.read style.regexStyle text with
  | .ok r => return some (r.compile ignoreCase perLine)
  | .error .classOutsideBrackets =>
    throw { remaining := none, text := RegexFault.classOutsideBrackets.message, status := 4 }
  | .error fault => refuse fault.message

/-- Reads the letters behind the expression of an address: whether case is passed over, and whether
lines count. -/
def addressFlags (ignoreCase perLine : Bool) : Nat → ScriptReader (Bool × Bool)
  | 0 => return (ignoreCase, perLine)
  | fuel + 1 => do
    skipBlanks
    match ← look with
    | some 'I' =>
      let _ ← nextChar
      addressFlags true perLine fuel
    | some 'M' =>
      let _ ← nextChar
      addressFlags ignoreCase true fuel
    | _ => return (ignoreCase, perLine)

/-- Reads an address if there is one. -/
def readAddress (style : Style) : ScriptReader (Option EditAddress) := do
  match ← get with
  | [] => return none
  | c :: cs =>
    let matching (delimiter : Char) (rest : List Char) : ScriptReader (Option EditAddress) := do
      set rest
      let text ← readDelimited delimiter true "unterminated address regex"
      let (ignoreCase, perLine) ← addressFlags false false ((← get).length + 1)
      return some (.matching (← compileRegex style text ignoreCase perLine))
    if c = '/' then matching c cs
    else if c = '\\' then
      match cs with
      | [] | '\n' :: _ => refuse "unexpected newline"
      | delimiter :: rest => matching delimiter rest
    else if c.isDigit then
      let n ← readNumber
      skipBlanks
      if (← look) = some '~' then
        let _ ← nextChar
        skipBlanks
        let step ← readNumber
        return some (if step = 0 then .line n else .every n step)
      return some (.line n)
    else if c = '+' || c = '~' then
      set cs
      let n ← readNumber
      return some (if c = '+' then .more n else .multiple n)
    else if c = '$' then
      set cs
      return some .last
    else return none

/-! ## Replacements -/

/-- The parts of what takes the place of a match. -/
def replacementParts (pending : List Char) : List Char → List ReplacementPart
  | [] => flushed pending
  | '&' :: cs => flushed pending ++ .group 0 :: replacementParts [] cs
  | '\\' :: c :: cs =>
    let change (c : CaseChange) : List ReplacementPart :=
      flushed pending ++ .change c :: replacementParts [] cs
    if c.isDigit then flushed pending ++ .group (c.toNat - 48) :: replacementParts [] cs
    else
      match c with
      | 'n' => replacementParts ('\n' :: pending) cs
      | 'L' => change .lower
      | 'U' => change .upper
      | 'E' => change .ended
      | 'l' => change .nextLower
      | 'u' => change .nextUpper
      | c => replacementParts (c :: pending) cs
  | c :: cs => replacementParts (c :: pending) cs
where
  /-- The text that was read, which is in reverse. -/
  flushed (pending : List Char) : List ReplacementPart :=
    if pending.isEmpty then [] else [.text pending.reverse]

/-- The letters behind a replacement. -/
structure ReplacementFlags where
  isGlobal : Bool := false
  prints : Bool := false
  number : Option Nat := none
  ignoreCase : Bool := false
  perLine : Bool := false
  target : Option String := none

/-- Reads the letters behind a replacement. -/
def replacementFlags (f : ReplacementFlags) : Nat → ScriptReader ReplacementFlags
  | 0 => return f
  | fuel + 1 => do
    match ← look with
    | none | some '\x7d' | some '#' => return f
    | some c =>
      if c.isDigit then
        if f.number.isSome then
          let _ ← nextChar
          refuse "multiple number options to \x60s' command"
        let number ← readNumber
        if number = 0 then refuse "number option to \x60s' command may not be zero"
        replacementFlags { f with number := some number } fuel
      else
        let _ ← nextChar
        match c with
        | '\n' | ';' => return f
        | 'i' | 'I' => replacementFlags { f with ignoreCase := true } fuel
        | 'm' | 'M' => replacementFlags { f with perLine := true } fuel
        | 'e' => replacementFlags f fuel
        | 'g' =>
          if f.isGlobal then refuse "multiple \x60g' options to \x60s' command"
          replacementFlags { f with isGlobal := true } fuel
        | 'p' =>
          if f.prints then refuse "multiple \x60p' options to \x60s' command"
          replacementFlags { f with prints := true } fuel
        | 'w' => return { f with target := some (← readPathName) }
        | c =>
          if isSpace c then replacementFlags f fuel else refuse "unknown option to \x60s'"

/-- The highest group that is referred to. -/
def highestGroup (parts : List ReplacementPart) : Nat :=
  parts.foldl
    (fun n part =>
      match part with
      | .group m => max n m
      | _ => n)
    0

/-- Reads a replacement. -/
def readReplacement (style : Style) : ScriptReader EditAction := do
  let missing := "unterminated \x60s' command"
  match ← nextChar with
  | none => refuse missing
  | some delimiter =>
    if delimiter = '\n' || delimiter = '\\' then refuse missing
    let pattern ← readDelimited delimiter true missing
    let text ← readDelimited delimiter false missing
    let flags ← replacementFlags {} ((← get).length + 1)
    let regex ← compileRegex style pattern flags.ignoreCase flags.perLine
    let text := withEscapes ['&', '\\'] (text.length + 1) text
    let parts := replacementParts [] text
    let highest := highestGroup parts
    if regex.any fun r => r.groups < highest then
      refuse ("invalid reference \\" ++ Decimal.natText highest ++ " on \x60s' command's RHS")
    return .replace
      { regex, parts, isGlobal := flags.isGlobal, number := flags.number.getD 1
        prints := flags.prints, target := flags.target }

/-- The characters of a set, with its escapes replaced. -/
def mappedChars : List Char → List Char
  | '\\' :: '\\' :: cs => '\\' :: mappedChars cs
  | '\\' :: 'n' :: cs => '\n' :: mappedChars cs
  | '\\' :: c :: cs => c :: mappedChars cs
  | c :: cs => c :: mappedChars cs
  | [] => []

/-- Reads characters with those that take their places. -/
def readMap : ScriptReader EditAction := do
  let missing := "unterminated \x60y' command"
  match ← nextChar with
  | none => refuse missing
  | some delimiter =>
    let characters : ScriptReader (List Char) := do
      let text ← readDelimited delimiter false missing
      return mappedChars (withEscapes ['\\'] (text.length + 1) text)
    let source ← characters
    let into ← characters
    if source.length ≠ into.length then refuse "strings for \x60y' command are different lengths"
    endCommand
    let identity := (Array.range 256).map Char.ofNat
    return .map ((source.zip into).foldl (fun a p => a.set! p.1.toNat p.2) identity)

/-! ## Texts -/

/-- Reads a text up to the end of a line that no backslash stands in front of. -/
def readLines : Nat → List Char → ScriptReader (List Char)
  | 0, read => return read.reverse
  | fuel + 1, read => do
    match ← nextChar with
    | none | some '\n' => return ('\n' :: read).reverse
    | some '\\' =>
      match ← get with
      | [] => return ('\n' :: read).reverse
      | c :: cs =>
        match if c = '\n' then none else escapedChar (c :: cs) with
        | some (e, _, rest) =>
          set rest
          readLines fuel (e :: read)
        | none =>
          set cs
          readLines fuel ((if c = 'n' then '\n' else c) :: read)
    | some c => readLines fuel (c :: read)

/-- Reads the text of a command, on the same line or behind a backslash. -/
def readText : ScriptReader (List Char) := do
  let size := (← get).length + 1
  skipBlanks
  match ← get with
  | [] | '\n' :: _ => refuse "expected \\ after \x60a', \x60c' or \x60i'"
  | '\\' :: rest =>
    match rest.dropWhile fun c => c = ' ' || c = '\t' with
    | '\n' :: text =>
      set text
      if text.isEmpty then return [] else readLines size []
    | [] =>
      set ([] : List Char)
      return []
    | _ =>
      match rest with
      | c :: cs =>
        set cs
        readLines size [c]
      | [] => return []
  | _ => readLines size []

/-! ## Commands -/

/-- The script so far, and the blocks that are open. -/
structure Progress where
  script : EditScript := {}
  blocks : List Nat := []

/-- Reads what a command does, from behind its letter. -/
def readAction (style : Style) (p : Progress) (letter : Char) (hasAddress : Bool) :
    ScriptReader (EditAction × Progress) := do
  let here := p.script.commands.size
  let plain (action : EditAction) : ScriptReader (EditAction × Progress) := do
    endCommand
    return (action, p)
  let jump (kind : JumpKind) : ScriptReader (EditAction × Progress) := do
    let label ← readLabel
    endCommand
    return (.jump kind label, p)
  let numbered : ScriptReader (Option Nat) := do
    skipBlanks
    let isGiven := (← look).any Char.isDigit
    let n ← readNumber
    endCommand
    return if isGiven then some n else none
  match letter with
  | '\x7b' => return (.block 0, { p with blocks := here :: p.blocks })
  | '\x7d' =>
    match p.blocks with
    | [] => refuse "unexpected \x60\x7d'"
    | start :: blocks =>
      if hasAddress then refuse "\x7d doesn't want any addresses"
      endCommand
      let closed (c : EditCommand) : EditCommand := { c with action := .block here }
      let commands := p.script.commands.modify start closed
      return (.nothing, { p with script := { p.script with commands }, blocks })
  | ':' =>
    if hasAddress then refuse ": doesn't want any addresses"
    let label ← readLabel
    if label.isEmpty then refuse "\":\" lacks a label"
    let labels := Table.insert label here p.script.labels
    return (.nothing, { p with script := { p.script with labels } })
  | 'b' => jump .always
  | 't' => jump .replaced
  | 'T' => jump .unreplaced
  | 'a' => return (.append (← readText), p)
  | 'i' => return (.insert (← readText), p)
  | 'c' => return (.change (← readText), p)
  | 'd' => plain .delete
  | 'D' => plain .deleteFirst
  | 'n' => plain .next
  | 'N' => plain .appendNext
  | 'p' => plain .print
  | 'P' => plain .printFirst
  | 'h' => plain .copyToHold
  | 'H' => plain .addToHold
  | 'g' => plain .copyFromHold
  | 'G' => plain .addFromHold
  | 'x' => plain .exchange
  | 'z' => plain .clear
  | '=' => plain .number
  | 'F' => plain .fileName
  | 'l' => return (.list (← numbered), p)
  | 'q' => return (.quit ((← numbered).getD 0) true, p)
  | 'Q' => return (.quit ((← numbered).getD 0) false, p)
  | 'r' => return (.readFile (← readPathName), p)
  | 'R' => return (.readLine (← readPathName), p)
  | 'w' => return (.writeFile (← readPathName), p)
  | 'W' => return (.writeFirst (← readPathName), p)
  | 's' => return (← readReplacement style, p)
  | 'y' => return (← readMap, p)
  | 'v' =>
    let _ ← readLabel
    endCommand
    return (.nothing, p)
  | c => refuse ("unknown command: \x60" ++ String.singleton c ++ "'")

/-- Whether addresses cannot stand together. -/
def checkAddresses (first second : Option EditAddress) : ScriptReader Unit := do
  match first with
  | some (.more _) | some (.multiple _) => refuse "invalid usage of +N or ~N as first address"
  | some (.line 0) =>
    match second with
    | some (.matching _) => return ()
    | _ => refuse "invalid usage of line address 0"
  | _ => return ()

/-- Reads one command with its addresses. -/
def readCommand (style : Style) (p : Progress) : ScriptReader Progress := do
  let first ← readAddress style
  skipBlanks
  let second ← if first.isSome && (← look) = some ',' then do
      let _ ← nextChar
      skipBlanks
      match ← readAddress style with
      | some address =>
        skipBlanks
        pure (some address)
      | none =>
        let _ ← nextChar
        refuse "unexpected \x60,'"
    else pure none
  let letter? ← nextChar
  checkAddresses first second
  let negated := letter? = some '!'
  let letter? ← if negated then nextFilled else pure letter?
  match letter? with
  | none | some '\n' => refuse "missing command"
  | some letter =>
    if negated && letter = '!' then refuse "multiple \x60!'s"
    if letter = '#' then refuse "comments don't accept any addresses"
    let (action, p) ← readAction style p letter first.isSome
    let command : EditCommand := { first, second, negated, action }
    return { p with script := { p.script with commands := p.script.commands.push command } }

/-- Reads commands up to the end of a script. -/
def readCommands (style : Style) : Nat → Progress → ScriptReader Progress
  | 0, p => return p
  | fuel + 1, p => do
    modify fun cs => cs.dropWhile fun c => isSpace c || c = ';'
    match ← get with
    | [] => return p
    | '#' :: cs =>
      set (cs.dropWhile (· ≠ '\n'))
      readCommands style fuel p
    | _ => readCommands style fuel (← readCommand style p)

/-- The label of a jump that leads nowhere, if there is one. -/
def missingLabel? (script : EditScript) : Option String :=
  script.commands.toList.findSome? fun c =>
    match c.action with
    | .jump _ label =>
      if label.isEmpty || (Table.find? label script.labels).isSome then none else some label
    | _ => none

/-- The script that a text writes, or what is wrong with it. -/
def read (style : Style) (text : List Char) : Except EditFault EditScript := do
  let isQuiet := match text with
    | ['#', 'n'] | '#' :: 'n' :: '\n' :: _ => true
    | _ => false
  let (p, _) ← (readCommands style (text.length + 1) {}).run text
  unless p.blocks.isEmpty do throw { remaining := some text.length, text := "unmatched \x60\x7b'" }
  match missingLabel? p.script with
  | some label =>
    let text := "can't find label for jump to \x60" ++ label ++ "'"
    throw { remaining := none, text, status := 4 }
  | none => return { p.script with isQuiet }

end EditScript

end LayerNet.Shell
