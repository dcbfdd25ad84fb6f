import LayerNet.Shell.Tools.Files

/-!
# Tools that compare files

Main definitions:

- `cmpTool`: the first byte in which two inputs differ.
- `diffTool`: the lines in which two inputs differ.
-/

namespace LayerNet.Shell

/-! ## Bytes -/

/-- Where two inputs differ first: the place of the byte and its line, counted from one; both are of
the last byte if one input ends there. -/
structure Difference where
  place : Nat
  line : Nat
  /-- how much of the common part ends in an open line -/
  isOpen : Bool
  pair : Option (UInt8 × UInt8)
  /-- which input ends first -/
  firstEnds : Bool := false

/-- Where two inputs differ first. -/
def firstDifference (place line : Nat) (isOpen : Bool) :
    List UInt8 → List UInt8 → Option Difference
  | [], [] => none
  | a :: as, b :: bs =>
    if a = b then
      firstDifference (place + 1) (if a = 10 then line + 1 else line) (a ≠ 10) as bs
    else some ⟨place + 1, line, isOpen, some (a, b), false⟩
  | [], _ => some ⟨place, line, isOpen, none, true⟩
  | _, [] => some ⟨place, line, isOpen, none, false⟩

/-- All bytes in which two inputs differ, with their places. -/
def allDifferences (place : Nat) : List UInt8 → List UInt8 → List (Nat × UInt8 × UInt8)
  | a :: as, b :: bs =>
    let rest := allDifferences (place + 1) as bs
    if a = b then rest else (place + 1, a, b) :: rest
  | _, _ => []

/-- Says whether two inputs differ, and where. -/
def cmpTool (tool : String) (arguments : List String) : Run Nat := do
  let table := OptionTable.ofText "bi:ln:sv"
    [("print-bytes", 'b'), ("ignore-initial", 'i'), ("verbose", 'l'), ("bytes", 'n'),
      ("quiet", 's'), ("silent", 's')]
  match table.read arguments with
  | .error why =>
    complain (tool ++ ": " ++ why)
    failing 2 tool ("Try '" ++ tool ++ " --help' for more information.")
  | .ok o =>
    let refuse (why : String) : Run Nat := do
      complain (tool ++ ": " ++ why)
      failing 2 tool ("Try '" ++ tool ++ " --help' for more information.")
    match o.operands with
    | [] => refuse ("missing operand after " ++ quoted tool)
    | first :: rest =>
      let second := rest.headD "-"
      let read (path : String) : Run (Option Input) := do
        match ← if path = "-" then readStandard 0 else readPath path 0 with
        | .ok a => return some ⟨path, a.bytes, a.isWhole⟩
        | .error fault =>
          unless o.has 's' do complain (tool ++ ": " ++ path ++ ": " ++ fault.text)
          return none
      match ← read first, ← read second with
      | some a, some b =>
        let limit (bytes : List UInt8) : List UInt8 :=
          match (o.value? 'n').bind natOf? with
          | some n => bytes.take n
          | none => bytes
        let (as, bs) := (limit a.bytes, limit b.bytes)
        match firstDifference 0 1 false as bs with
        | none => return 0
        | some d =>
          if o.has 's' then return 1
          if o.has 'l' then
            let octal (b : UInt8) : List Char :=
              let digits := Nat.toDigits 8 b.toNat
              List.replicate (3 - digits.length) ' ' ++ digits
            let width := (Decimal.digits (max as.length bs.length)).length
            for (place, x, y) in allDifferences 0 as bs do
              outChars (numberIn width place ++ ' ' :: octal x ++ ' ' :: octal y ++ ['\n'])
          match d.pair with
          | some _ =>
            unless o.has 'l' do
              out (first ++ " " ++ second ++ " differ: char " ++ Decimal.natText d.place
                ++ ", line " ++ Decimal.natText d.line ++ "\n")
          | none => pure ()
          if as.length ≠ bs.length && (d.pair.isNone || o.has 'l') then
            let short := if as.length < bs.length then first else second
            let size := min as.length bs.length
            if size = 0 then complain (tool ++ ": EOF on " ++ shownName short ++ " which is empty")
            else
              let line := if d.isOpen then "in line " ++ Decimal.natText d.line
                else "line " ++ Decimal.natText (d.line - 1)
              complain (tool ++ ": EOF on " ++ shownName short ++ " after byte "
                ++ Decimal.natText size ++ (if o.has 'l' then "" else ", " ++ line))
          return 1
      | _, _ => return 2

/-! ## Lines -/

/-- How lines of one input become those of another: kept, taken away or added. -/
inductive LineChange where
  | kept (line : Line)
  | removed (line : Line)
  | added (line : Line)

/-- For all ends of two lists the length of the longest common part, as rows for the ends of the
first one. -/
def commonLengths (same : Line → Line → Bool) (bs : List Line) : List Line → List (List Nat)
  | [] => [List.replicate (bs.length + 1) 0]
  | a :: as =>
    let rows := commonLengths same bs as
    let below := rows.headD []
    let row := (bs.zip (below.zip below.tail)).foldr
      (fun (b, here, next) row =>
        (if same a b then next + 1 else max here (row.headD 0)) :: row)
      [0]
    row :: rows

/-- How one list of lines becomes another one, with as few changes as can be. -/
def lineChanges (same : Line → Line → Bool) :
    Nat → List Line → List Line → List (List Nat) → List LineChange
  | 0, _, _, _ => []
  | _, [], bs, _ => bs.map LineChange.added
  | _, as, [], _ => as.map LineChange.removed
  | fuel + 1, a :: as, b :: bs, rows =>
    if same a b then
      .kept a :: lineChanges same fuel as bs ((rows.drop 1).map fun row => row.drop 1)
    else
      let right := ((rows.headD []).drop 1).headD 0
      let under := ((rows.drop 1).headD []).headD 0
      if right ≤ under then .removed a :: lineChanges same fuel as (b :: bs) (rows.drop 1)
      else .added b :: lineChanges same fuel (a :: as) bs (rows.map fun row => row.drop 1)

/-- Changes next to each other: where they begin in both inputs, counted from zero, and the
lines. -/
structure Hunk where
  first : Nat
  second : Nat
  removed : List Line
  added : List Line

/-- Changes put together where nothing is kept between them. -/
def hunksOf (first second : Nat) (pending : Option Hunk) : List LineChange → List Hunk
  | [] => pending.toList
  | .kept _ :: rest => pending.toList ++ hunksOf (first + 1) (second + 1) none rest
  | .removed line :: rest =>
    let h := pending.getD ⟨first, second, [], []⟩
    hunksOf (first + 1) second (some { h with removed := h.removed ++ [line] }) rest
  | .added line :: rest =>
    let h := pending.getD ⟨first, second, [], []⟩
    hunksOf first (second + 1) (some { h with added := h.added ++ [line] }) rest

/-- A line with a sign in front. -/
def signedLine (sign : String) (line : Line) : String :=
  sign ++ String.ofList line.text ++ "\n"
    ++ if line.isClosed then "" else "\\ No newline at end of file\n"

/-- Changes as they are written. -/
def Hunk.text (h : Hunk) : String :=
  let range (start count : Nat) : String :=
    if count ≤ 1 then Decimal.natText (start + count)
    else Decimal.natText (start + 1) ++ "," ++ Decimal.natText (start + count)
  let sign := if h.removed.isEmpty then "a" else if h.added.isEmpty then "d" else "c"
  range h.first h.removed.length ++ sign ++ range h.second h.added.length ++ "\n"
    ++ String.join (h.removed.map (signedLine "< "))
    ++ (if sign = "c" then "---\n" else "")
    ++ String.join (h.added.map (signedLine "> "))

/-- Lines as they are compared. -/
def comparedText (o : Options) (line : Line) : List Char :=
  let isBlank (c : Char) : Bool := c = ' ' || c = '\t'
  let text := if o.has 'i' then line.text.map Char.toLower else line.text
  if o.has 'w' then text.filter fun c => !isBlank c
  else if o.has 'b' then
    let parts := (text.splitBy fun a b => isBlank a = isBlank b).map fun part =>
      if part.head?.any isBlank then [' '] else part
    (parts.flatten.reverse.dropWhile isBlank).reverse
  else text

/-- Says in which lines two inputs differ. -/
def diffTool (tool : String) (arguments : List String) : Run Nat := do
  let table := OptionTable.ofText "qsiwbBurNaeycU:C:dt"
    [("brief", 'q'), ("report-identical-files", 's'), ("ignore-case", 'i'),
      ("ignore-all-space", 'w'), ("ignore-space-change", 'b'), ("unified", 'u'),
      ("recursive", 'r')]
  match table.read arguments with
  | .error why =>
    complain (tool ++ ": " ++ why)
    failing 2 tool ("Try '" ++ tool ++ " --help' for more information.")
  | .ok o =>
    match o.operands with
    | [first, second] =>
      let files := (← get).files
      let (isFirst, isSecond) :=
        (files.isDirectory (toText first), files.isDirectory (toText second))
      let first := if isFirst && !isSecond then below first (lastPart second) else first
      let second := if isSecond && !isFirst then below second (lastPart first) else second
      let read (path : String) : Run (Option Input) := do
        match ← if path = "-" then readStandard 0 else readPath path 0 with
        | .ok a => return some ⟨path, a.bytes, a.isWhole⟩
        | .error fault =>
          complain (tool ++ ": " ++ path ++ ": " ++ fault.text)
          return none
      let a? ← read first
      let b? ← read second
      match a?, b? with
      | some a, some b =>
        let same (x y : Line) : Bool :=
          comparedText o x == comparedText o y && x.isClosed == y.isClosed
        let (as, bs) := (a.lines, b.lines)
        let changes := lineChanges same (as.length + bs.length + 1) as bs
          (commonLengths same bs as)
        let hunks := hunksOf 0 0 none changes
        if hunks.isEmpty then
          if o.has 's' then out ("Files " ++ first ++ " and " ++ second ++ " are identical\n")
          return 0
        if o.has 'q' then out ("Files " ++ first ++ " and " ++ second ++ " differ\n")
        else out (String.join (hunks.map Hunk.text))
        return 1
      | _, _ => return 2
    | operands =>
      let why := match operands with
        | [] => "missing operand after " ++ quoted tool
        | [a] => "missing operand after " ++ quoted a
        | _ :: _ :: c :: _ => "extra operand " ++ quoted c
        | _ => ""
      complain (tool ++ ": " ++ why)
      failing 2 tool ("Try '" ++ tool ++ " --help' for more information.")

end LayerNet.Shell
