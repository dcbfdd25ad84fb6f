import LayerNet.Shell.Regex.Search
import LayerNet.Shell.Tools.Input
import LayerNet.Shell.Tools.Options

/-!
# The tool that searches lines

Main definitions:

- `LineSearch`: the expressions that lines are searched for.
- `grepTool`: the tool.
-/

namespace LayerNet.Shell

/-! ## Expressions -/

/-- The expressions that lines are searched for. -/
abbrev LineSearch := List RegexProgram

namespace LineSearch

/-- The first and longest part of a line, from a place on, in which an expression is found. -/
def find (programs : LineSearch) (line : Array Char) (start : Nat) : Option RegexFound :=
  programs.foldl
    (fun best program =>
      match best, program.search line start with
      | some b, some f =>
        if f.start < b.start || (f.start = b.start && b.stop < f.stop) then some f else some b
      | none, found => found
      | best, none => best)
    none

/-- The parts of a line, one behind another, in which an expression is found, without empty ones. -/
def findAll (programs : LineSearch) (line : Array Char) : Nat → Nat → List (Nat × Nat)
  | 0, _ => []
  | fuel + 1, start =>
    match find programs line start with
    | none => []
    | some f =>
      if f.stop = f.start then
        if line.size ≤ f.start then [] else findAll programs line fuel (f.start + 1)
      else (f.start, f.stop) :: findAll programs line fuel f.stop

/-- The operators in an extended expression that have nothing to repeat. -/
def lonelyOperators : Nat → Bool → List Char → List String
  | 0, _, _ => []
  | fuel + 1, atStart, cs =>
    let lonely (name : String) (rest : List Char) : List String :=
      if atStart then name :: lonelyOperators fuel true rest else lonelyOperators fuel false rest
    match cs with
    | [] => []
    | '\\' :: _ :: rest => lonelyOperators fuel false rest
    | '[' :: rest =>
      match Regex.readSet rest with
      | .ok (_, rest) => lonelyOperators fuel false rest
      | .error _ => []
    | '*' :: rest => lonely "*" rest
    | '+' :: rest => lonely "+" rest
    | '?' :: rest => lonely "?" rest
    | '\x7b' :: rest =>
      match Regex.readBounds { isExtended := true, allowsLooseBraces := true } rest with
      | .ok (some (_, _, rest)) => lonely "\x7b...\x7d" rest
      | _ => lonelyOperators fuel false rest
    | c :: rest =>
      lonelyOperators fuel (c = '(' || c = '|' || (c = '^' && atStart)) rest

/-- How expressions are written. -/
inductive Form where
  | basic
  | extended
  | fixed
deriving DecidableEq, Repr

/-- How expressions of a form are read. -/
def Form.style : Form → RegexStyle
  | extended => { isExtended := true, repeatsTwice := true, allowsLooseBraces := true
                  allowsLooseClosing := true }
  | _ => { repeatsTwice := true }

/-- Whether matches are to be whole words, or whole lines. -/
inductive Bounds where
  | free
  | words
  | lines
deriving DecidableEq, Repr

/-- The expression that a pattern writes, within bounds. -/
def compilePattern (form : Form) (bounds : Bounds) (ignoreCase : Bool) (pattern : List Char) :
    Except RegexFault RegexProgram := do
  let r ← if form = .fixed then pure (Regex.ofText pattern) else Regex.read form.style pattern
  let bounded : Regex := match bounds with
    | .free => r
    | .words => .both (.place .noWordBefore) (.both r (.place .noWordAfter))
    | .lines => .both (.place .lineStart) (.both r (.place .lineEnd))
  return bounded.compile ignoreCase false

end LineSearch

/-! ## Options -/

/-- How `grep` goes about. -/
structure GrepStyle where
  search : LineSearch
  inverted : Bool
  most : Option Nat
  before : Nat
  after : Nat
  /-- whether context was asked for, so that groups of lines are set apart -/
  hasGroups : Bool
  separator : Option (List Char)
  named : Bool
  numbered : Bool
  counted : Bool
  onlyParts : Bool
  mark : UInt8
  asText : Bool

/-- A line that is searched: its number, its place, and whether it is selected. -/
structure SearchedLine where
  text : Array Char
  number : Nat
  place : Nat
  isSelected : Bool

/-- What stands in front of a line: the name, the number and the place, as wanted. -/
def GrepStyle.front (style : GrepStyle) (name : List Char) (sign : Char) (number place : Nat) :
    List Char :=
  (if style.named then name ++ [sign] else [])
    ++ (if style.numbered then Decimal.digits number ++ [sign] else [])
    ++ (if style.counted then Decimal.digits place ++ [sign] else [])

/-- What is written of a selected line. -/
def GrepStyle.shown (style : GrepStyle) (name : List Char) (line : SearchedLine) : List Char :=
  let back := [Char.ofNat style.mark.toNat]
  if style.onlyParts then
    if style.inverted then []
    else
      (LineSearch.findAll style.search line.text (line.text.size + 1) 0).flatMap fun part =>
        style.front name ':' line.number (line.place + part.1)
          ++ (line.text.extract part.1 part.2).toList ++ back
  else style.front name ':' line.number line.place ++ line.text.toList ++ back

/-- What is written of lines with their context: `pending` are the lines in front that may be
wanted, in reverse; `behind` tells how many more lines are wanted; `gap` whether lines were left
out. -/
def GrepStyle.written (style : GrepStyle) (name : List Char) (pending : List SearchedLine)
    (behind : Nat) (gap any : Bool) : List SearchedLine → List (List Char)
  | [] => []
  | line :: rest =>
    let context (l : SearchedLine) : List Char :=
      if style.onlyParts then []
      else style.front name '-' l.number l.place ++ l.text.toList ++ [Char.ofNat style.mark.toNat]
    if line.isSelected then
      let front := (pending.take style.before).reverse
      let isApart := any && (gap || style.before < pending.length)
      let separator := if style.hasGroups && isApart then
          (style.separator.map fun s => s ++ ['\n']).toList
        else []
      separator ++ front.map context ++ style.shown name line
        :: style.written name [] style.after false true rest
    else if 0 < behind then
      context line :: style.written name [] (behind - 1) false any rest
    else
      let isFull := style.before ≤ pending.length
      let kept := if isFull then line :: pending.take (style.before - 1) else line :: pending
      let kept := if style.before = 0 then [] else kept
      style.written name kept 0 (gap || isFull) any rest

/-- The lines of an input with whether they are selected, up to the last one that is wanted; behind
it only its context. -/
def GrepStyle.searched (style : GrepStyle) (number place found : Nat) :
    List Line → List SearchedLine
  | [] => []
  | line :: rest =>
    let text := line.text.toArray
    let next := place + text.size + 1
    let isOver := style.most.any fun most => most ≤ found
    let isSelected := !isOver && (LineSearch.find style.search text 0).isSome != style.inverted
    let found := if isSelected then found + 1 else found
    { text, number, place, isSelected } :: style.searched (number + 1) next found rest

/-! ## The tool -/

/-- Complains about the way that `grep` is called. -/
def refuseGrep (tool why : String) : Run Nat := do
  unless why.isEmpty do complain (tool ++ ": " ++ why)
  complain "Usage: grep [OPTION]... PATTERNS [FILE]..."
  complain "Try 'grep --help' for more information."
  return 2

/-- The options of `grep`. -/
def grepTable : OptionTable :=
  OptionTable.ofText "A:B:C:EFGHILPRTUVZabcd:D:e:f:hilm:noqrsvwxyz0123456789K::Q:W:X::S:Y:"
    [("after-context", 'A'), ("basic-regexp", 'G'), ("before-context", 'B'), ("binary", 'U'),
      ("binary-files", 'W'), ("byte-offset", 'b'), ("context", 'C'), ("color", 'K'),
      ("colour", 'K'), ("count", 'c'), ("devices", 'D'), ("directories", 'd'),
      ("exclude", 'Y'), ("extended-regexp", 'E'), ("file", 'f'),
      ("files-with-matches", 'l'), ("files-without-match", 'L'), ("fixed-strings", 'F'),
      ("group-separator", 'S'), ("ignore-case", 'i'), ("include", 'Y'), ("initial-tab", 'T'),
      ("invert-match", 'v'), ("label", 'Q'), ("line-buffered", 'U'), ("line-number", 'n'),
      ("line-regexp", 'x'), ("max-count", 'm'), ("no-filename", 'h'),
      ("no-group-separator", 'X'), ("no-messages", 's'), ("null", 'Z'), ("null-data", 'z'),
      ("only-matching", 'o'), ("perl-regexp", 'P'), ("quiet", 'q'), ("recursive", 'r'),
      ("dereference-recursive", 'R'), ("regexp", 'e'), ("silent", 'q'), ("text", 'a'),
      ("with-filename", 'H'), ("word-regexp", 'w')]

/-- The patterns that are given: by options, in files, or in front of the operands, which follow. -/
def grepPatterns (o : Options) : Run (Except String (List (List Char) × List String)) := do
  if o.hasAny ['e', 'f'] then
    let mut patterns := #[]
    for (letter, value) in o.given do
      let value := value.getD ""
      if letter = 'e' then patterns := patterns ++ (fieldsOf value.toList).toArray
      else if letter = 'f' then
        match ← if value = "-" then readStandard 0 else readPath value 0 with
        | .error fault => return .error (value ++ ": " ++ fault.text)
        | .ok a =>
          let input : Input := ⟨value, a.bytes, true⟩
          patterns := patterns ++ input.texts.toArray
    return .ok (patterns.toList, o.operands)
  else
    match o.operands with
    | [] => return .error ""
    | pattern :: rest => return .ok (fieldsOf pattern.toList, rest)
where
  /-- The lines of a pattern. -/
  fieldsOf (cs : List Char) : List (List Char) :=
    cs.splitOn '\n'

/-- The number that an option gives, or what is wrong with it. -/
def contextLength (o : Options) (letters : List Char) : Except String (Option Nat) :=
  let found := (o.given.filter fun g => letters.contains g.1).getLast?
  match found.bind Prod.snd with
  | none => .ok none
  | some text =>
    match countOf "" text with
    | .count n => .ok (some n)
    | .tooLarge => .ok (some (Nat.pow 2 62))
    | .invalid => .error (text ++ ": invalid context length argument")

/-- How `grep` is to go about, or what is wrong with its options. -/
def grepStyle (o : Options) (search : LineSearch) (named : Bool) : Except String GrepStyle := do
  let digits := (o.given.map Prod.fst).filter Char.isDigit
  let short := if digits.isEmpty then none else some (Decimal.natOfDigits digits)
  let both := (← contextLength o ['C']).or short
  let before := (← contextLength o ['B']).or both
  let after := (← contextLength o ['A']).or both
  let most ← match o.value? 'm' with
    | none => pure none
    | some text =>
      match text.toList with
      | '-' :: ds =>
        if !ds.isEmpty && ds.all Char.isDigit then pure none else throw "invalid max count"
      | _ =>
        match countOf "" text with
        | .count n => pure (some n)
        | .tooLarge => pure none
        | .invalid => throw "invalid max count"
  return {
    search, named, most
    inverted := o.has 'v'
    before := before.getD 0
    after := after.getD 0
    hasGroups := before.isSome || after.isSome
    separator := if o.has 'X' then none else some ((o.value? 'S').getD "--").toList
    numbered := o.has 'n'
    counted := o.has 'b'
    onlyParts := o.has 'o'
    mark := if o.has 'z' then 0 else 10
    asText := o.hasAny ['a', 'z'] || o.value? 'W' = some "text" }

/-- The files below a directory, with their paths. -/
def filesBelow (path : String) : Nat → Node → List String
  | 0, _ => []
  | fuel + 1, node =>
    node.entries.flatMap fun entry =>
      let name := fromText entry.1
      let below := if path.isEmpty then name
        else if path.endsWith "/" then path ++ name else path ++ "/" ++ name
      match entry.2 with
      | .directory _ => filesBelow below fuel entry.2
      | _ => [below]

/-- The operands with the files below those that are directories. -/
def recursiveOperands (s : State) (operands : List String) : List String :=
  if operands.isEmpty then
    match s.files.node? s.files.current with
    | some node => filesBelow "" 100 node
    | none => []
  else
    operands.flatMap fun operand =>
      match s.files.locate (toText operand) with
      | .ok (_, .directory entries) => filesBelow operand 100 (.directory entries)
      | _ => [operand]

/-- What one input gives: whether a line is selected, and whether no more is to be searched. -/
structure GrepOutcome where
  isFound : Bool
  isOver : Bool := false

/-- Searches one input. -/
def searchInput (o : Options) (style : GrepStyle) (input : Input) : Run GrepOutcome := do
  let name := if input.name = "-" then (o.value? 'Q').getD "(standard input)" else input.name
  let lines := input.linesAt style.mark
  let searched := style.searched 1 0 0 lines
  let count := searched.countP SearchedLine.isSelected
  let isFound := 0 < count
  let isEnough := style.most.any fun most => most ≤ count
  let nameEnd := if o.has 'Z' then "\x00" else "\n"
  if o.has 'q' then
    unless isFound || input.isWhole do starve
    return { isFound, isOver := isFound }
  else if o.hasAny ['l', 'L'] then
    unless isFound || input.isWhole do starve
    let lists := match o.last? ['l', 'L'] with
      | some 'L' => !isFound && input.isWhole
      | _ => isFound
    if lists then out (name ++ nameEnd)
    return { isFound }
  else if o.has 'c' then
    unless input.isWhole || isEnough do starve
    if input.isWhole || isEnough then
      out ((if style.named then name ++ (if o.has 'Z' then "\x00" else ":") else "")
        ++ Decimal.natText count ++ "\n")
    return { isFound }
  else
    if !style.asText && input.bytes.contains 0 then
      if isFound then out ("grep: " ++ name ++ ": binary file matches\n")
    else
      let written := style.written name.toList [] 0 false false searched
      unless written.isEmpty do outChars written.flatten
    unless input.isWhole || isEnough do starve
    return { isFound }

/-- The form in which patterns are written, or what is wrong with the options. -/
def grepForm (o : Options) (usual : LineSearch.Form) : Except String LineSearch.Form :=
  let given := ((o.given.map Prod.fst).filter ['E', 'F', 'G', 'P'].contains).eraseDups
  match given with
  | [] => .ok usual
  | ['E'] | ['P'] => .ok .extended
  | ['F'] => .ok .fixed
  | ['G'] => .ok .basic
  | _ => .error "conflicting matchers specified"

/-- Searches inputs for patterns; the form is what patterns have if no option says anything else. -/
def grepTool (usual : LineSearch.Form) (tool : String) (arguments : List String) : Run Nat := do
  match grepTable.read arguments with
  | .error why => refuseGrep tool why
  | .ok o =>
    let form ← match grepForm o usual with
      | .ok form => pure form
      | .error why => return ← failing 2 "grep" why
    let (patterns, operands) ← match ← grepPatterns o with
      | .ok found => pure found
      | .error why => return ← if why.isEmpty then refuseGrep tool "" else failing 2 "grep" why
    if form = .extended then
      for pattern in patterns do
        for name in LineSearch.lonelyOperators (pattern.length + 1) true pattern do
          complain ("grep: warning: " ++ name ++ " at start of expression")
    let bounds : LineSearch.Bounds :=
      if o.has 'x' then .lines else if o.has 'w' then .words else .free
    match patterns.mapM (LineSearch.compilePattern form bounds (o.hasAny ['i', 'y'])) with
    | .error fault => failing 2 "grep" fault.message
    | .ok search =>
      let goesDown := o.hasAny ['r', 'R']
      let s ← get
      let inputs := if goesDown then recursiveOperands s operands else operands
      let several := 1 < operands.length || (goesDown && operands ≠ ["-"])
      let named := match o.last? ['h', 'H'] with
        | some 'h' => false
        | some _ => true
        | none => several
      match grepStyle o search named with
      | .error why => failing 2 "grep" why
      | .ok style =>
        let inputs := if inputs.isEmpty && !goesDown then ["-"] else inputs
        let skips := o.value? 'd' = some "skip"
        let mut status := 0
        let mut isFound := false
        for operand in inputs do
          let wanted ← endlessSize
          match ← if operand = "-" then readStandard wanted else readPath operand wanted with
          | .error fault =>
            unless fault = .isADirectory && skips do
              let name := if operand = "-" then "(standard input)" else operand
              unless o.has 's' do complain ("grep: " ++ name ++ ": " ++ fault.text)
              status := 2
          | .ok a =>
            let outcome ← searchInput o style ⟨operand, a.bytes, a.isWhole⟩
            if outcome.isFound then isFound := true
            if outcome.isOver then return 0
        return if status ≠ 0 then status else if isFound then 0 else 1

end LayerNet.Shell
