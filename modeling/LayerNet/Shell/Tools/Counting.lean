import LayerNet.Shell.Regex.Search
import LayerNet.Shell.Tools.Input
import LayerNet.Shell.Tools.Options

/-!
# Tools that count

Main definitions:

- `wcTool`: how many lines, words and bytes there are.
- `nlTool`: lines with their numbers.
-/

namespace LayerNet.Shell

/-! ## Counts -/

/-- How many lines, words and bytes an input has, and how wide its widest line is. -/
structure Counts where
  lines : Nat := 0
  words : Nat := 0
  bytes : Nat := 0
  widest : Nat := 0
deriving DecidableEq, Repr

/-- The counts so far, whether a word is open, and how wide the line is so far. -/
structure Counting where
  counts : Counts := {}
  inWord : Bool := false
  width : Nat := 0

/-- The counts with one more byte. -/
def Counting.step (c : Counting) (b : UInt8) : Counting :=
  let bytes := c.counts.bytes + 1
  let widest := max c.counts.widest c.width
  let isShown := 32 ≤ b && b ≤ 126
  if b = 10 || b = 12 || b = 13 then
    let lines := if b = 10 then c.counts.lines + 1 else c.counts.lines
    { counts := { c.counts with lines, bytes, widest }, inWord := false, width := 0 }
  else if b = 9 then
    { counts := { c.counts with bytes }, inWord := false, width := c.width + 8 - c.width % 8 }
  else if b = 32 || b = 11 then
    { counts := { c.counts with bytes }
      inWord := false
      width := if b = 32 then c.width + 1 else c.width }
  else
    let words := if c.inWord then c.counts.words else c.counts.words + 1
    { counts := { c.counts with words, bytes }
      inWord := true
      width := if isShown then c.width + 1 else c.width }

/-- The counts of some bytes. -/
def Counts.ofBytes (bytes : List UInt8) : Counts :=
  let c := bytes.foldl Counting.step {}
  { c.counts with widest := max c.counts.widest c.width }

/-- The counts of two inputs together. -/
def Counts.add (a b : Counts) : Counts :=
  { lines := a.lines + b.lines
    words := a.words + b.words
    bytes := a.bytes + b.bytes
    widest := max a.widest b.widest }

/-- The counts that are wanted, in order. -/
def Counts.wanted (c : Counts) (o : Options) : List Nat :=
  if !o.hasAny ['l', 'w', 'c', 'm', 'L'] then [c.lines, c.words, c.bytes]
  else
    (if o.has 'l' then [c.lines] else []) ++ (if o.has 'w' then [c.words] else [])
      ++ (if o.has 'm' then [c.bytes] else []) ++ (if o.has 'c' then [c.bytes] else [])
      ++ (if o.has 'L' then [c.widest] else [])

/-- The size of the file that an operand leads to, if it is one; none stands for what is no file,
and an operand that leads nowhere has none at all. -/
def State.operandSize (s : State) (operand : String) : Option (Option Nat) :=
  let ofNode (node? : Option Node) : Option (Option Nat) :=
    match node? with
    | some (.file content _) => some (some content.size)
    | some _ => some none
    | none => none
  if operand = "-" then
    match s.channel? 0 with
    | some (_, .file place _ _) => ofNode (s.files.node? place)
    | some _ => some none
    | none => none
  else ofNode ((s.files.locate (toText operand)).toOption.map Prod.snd)

/-- How wide the counts are written: as the size of all files together, but wider if some input is
no file. -/
def countWidth (s : State) (operands : List String) (count : Nat) : Nat :=
  if operands.length ≤ 1 && count = 1 then 1
  else
    let sizes := operands.map s.operandSize
    let total := sizes.foldl (fun sum size => sum + (size.bind id).getD 0) 0
    let least := if sizes.contains (some none) then 7 else 1
    max least (Decimal.digits total).length

/-- Counts lines, words and bytes. -/
def wcTool (tool : String) (arguments : List String) : Run Nat := do
  let table := OptionTable.ofText "clmwL"
    [("bytes", 'c'), ("chars", 'm'), ("lines", 'l'), ("words", 'w'), ("max-line-length", 'L')]
  withOptions tool 1 table arguments fun o => do
    let operands := if o.operands.isEmpty then ["-"] else o.operands
    let width := countWidth (← get) operands ((({} : Counts).wanted o).length)
    let write (c : Counts) (name : List Char) : Run Unit := do
      let shown := (c.wanted o).map (numberIn width)
      outChars ([' '].intercalate shown ++ name ++ ['\n'])
    let named (operand : String) : List Char :=
      if o.operands.isEmpty then [] else ' ' :: (shownName operand).toList
    let mut total : Counts := {}
    let mut status := 0
    for operand in operands do
      let wanted ← endlessSize
      match ← if operand = "-" then readStandard wanted else readPath operand wanted with
      | .ok a =>
        if a.isWhole then
          let counts := Counts.ofBytes a.bytes
          total := total.add counts
          write counts (named operand)
        else starve
      | .error fault =>
        complain (tool ++ ": " ++ shownName operand ++ ": " ++ fault.text)
        if fault = .isADirectory then write {} (named operand)
        status := 1
    if 1 < operands.length then write total " total".toList
    return status

/-! ## Numbered lines -/

/-- Which lines are numbered: all, those with text, none, or those that an expression is found
in. -/
inductive NumberedLines where
  | all
  | filled
  | none
  | matching (r : RegexProgram)

/-- Whether a line is numbered. -/
def NumberedLines.holds (line : List Char) : NumberedLines → Bool
  | all => true
  | filled => !line.isEmpty
  | none => false
  | matching r => (r.search line.toArray 0).isSome

/-- The lines that an argument means. -/
def NumberedLines.read (text : String) : Option NumberedLines :=
  match text.toList with
  | ['a'] => some all
  | ['t'] => some filled
  | ['n'] => some none
  | 'p' :: pattern =>
    (Regex.read { repeatsTwice := true } pattern).toOption.map fun r =>
      matching (r.compile false false)
  | _ => Option.none

/-- How lines are numbered. -/
structure NumberStyle where
  width : Nat := 6
  separator : List Char := ['\t']
  start : Int := 1
  increment : Int := 1
  format : String := "rn"
  keepsCount : Bool := false
  header : NumberedLines := .none
  body : NumberedLines := .filled
  footer : NumberedLines := .none
  delimiter : List Char := ['\\', ':']

/-- A number as it stands in front of a line. -/
def NumberStyle.shown (style : NumberStyle) (n : Int) : List Char :=
  let text := (Decimal.intText n).toList
  let fill (c : Char) : List Char := List.replicate (style.width - text.length) c
  match style.format with
  | "ln" => text ++ fill ' '
  | "rz" => if n < 0 then '-' :: fill '0' ++ text.tail else fill '0' ++ text
  | _ => fill ' ' ++ text

/-- Lines with their numbers; `current` tells which of them are numbered. -/
def NumberStyle.lines (style : NumberStyle) (current : NumberedLines) (n : Int) :
    List (List Char) → List (List Char)
  | [] => []
  | line :: rest =>
    let begins (times : Nat) : Bool := line = (List.replicate times style.delimiter).flatten
    let restarted := if style.keepsCount then n else style.start
    if style.delimiter.isEmpty then
      (style.shown n ++ style.separator ++ line) :: style.lines current (n + style.increment) rest
    else if begins 3 then [] :: style.lines style.header restarted rest
    else if begins 2 then [] :: style.lines style.body restarted rest
    else if begins 1 then [] :: style.lines style.footer restarted rest
    else if current.holds line then
      (style.shown n ++ style.separator ++ line) :: style.lines current (n + style.increment) rest
    else
      let blank := List.replicate (style.width + style.separator.length) ' '
      (blank ++ line) :: style.lines current n rest

/-- Writes lines with their numbers. -/
def nlTool (tool : String) (arguments : List String) : Run Nat := do
  let table := OptionTable.ofText "b:d:f:h:i:l:n:ps:v:w:"
    [("body-numbering", 'b'), ("section-delimiter", 'd'), ("footer-numbering", 'f'),
      ("header-numbering", 'h'), ("line-increment", 'i'), ("join-blank-lines", 'l'),
      ("number-format", 'n'), ("no-renumber", 'p'), ("number-separator", 's'),
      ("starting-line-number", 'v'), ("number-width", 'w')]
  withOptions tool 1 table arguments fun o => do
    let lines (letter : Char) (usual : NumberedLines) : NumberedLines :=
      ((o.value? letter).bind NumberedLines.read).getD usual
    let number (letter : Char) (usual : Int) : Int :=
      match (o.value? letter).map String.toList with
      | some ('-' :: ds) => -(Decimal.natOfDigits ds : Int)
      | some ds => Decimal.natOfDigits ds
      | none => usual
    let style : NumberStyle :=
      { width := (number 'w' 6).toNat
        separator := ((o.value? 's').getD "\t").toList
        start := number 'v' 1
        increment := number 'i' 1
        format := (o.value? 'n').getD "rn"
        keepsCount := o.has 'p'
        header := lines 'h' .none
        body := lines 'b' .filled
        footer := lines 'f' .none }
    let (inputs, status) ← readOperands (.plain tool) 1 o.operands
    outLines (style.lines style.body style.start (inputs.flatMap Input.texts))
    starveBehind inputs
    return status

end LayerNet.Shell
