import LayerNet.Shell.Tools.Input
import LayerNet.Shell.Tools.Options

/-!
# Tools for columns

Tools that take columns from lines and put columns together.

Main definitions:

- `Columns.read`: which columns are wanted.
- `cutTool`: some of the bytes or fields of each line.
- `pasteTool`: lines of several inputs side by side.
- `commTool`: what two sorted inputs have in common.
- `joinTool`: the lines of two sorted inputs that agree in a field.
- `foldTool`, `expandTool`, `unexpandTool`: lines no wider than a width; tabs and blanks.
-/

namespace LayerNet.Shell

/-! ## Which columns -/

/-- Places, counted from one, that are wanted: ranges in order, of which the last may be open. -/
abbrev Columns := List (Nat × Option Nat)

namespace Columns

/-- How a list of columns is spoken of: as fields, or as bytes. -/
structure Words where
  numbered : String
  range : String
  value : String
  large : String

/-- A list of fields. -/
def Words.fields : Words :=
  ⟨"fields are numbered from 1", "invalid field range", "invalid field value ", "field number "⟩

/-- A list of bytes or characters. -/
def Words.positions : Words :=
  ⟨"byte/character positions are numbered from 1", "invalid byte or character range",
    "invalid byte/character position ", "byte/character offset "⟩

/-- One range that is read: its start if it has a dash, and the number behind. -/
structure Item where
  start? : Option Nat := none
  given : Bool := false
  digits : List Char := []

/-- The range that an item is. -/
def Item.range (w : Words) (item : Item) : Except String (Nat × Option Nat) :=
  let value := Decimal.natOfDigits item.digits
  match item.start? with
  | none => if value = 0 then .error w.numbered else .ok (value, some value)
  | some start =>
    if item.digits.isEmpty then
      if item.given then .ok (start, none) else .error "invalid range with no endpoint: -"
    else if value < start then .error "invalid decreasing range"
    else .ok (start, some value)

/-- Reads a list of ranges with commas or blanks between them. -/
def readItems (w : Words) (item : Item) : List Char → Except String Columns
  | [] => do return [← item.range w]
  | c :: cs =>
    if c = '-' then
      if item.start?.isSome then .error w.range
      else
        let value := Decimal.natOfDigits item.digits
        let given := !item.digits.isEmpty
        if given && value = 0 then .error w.numbered
        else readItems w { start? := some (if given then value else 1), given } cs
    else if c = ',' || c = ' ' || c = '\t' then do
      let range ← item.range w
      return range :: (← readItems w {} cs)
    else if c.isDigit then
      let digits := item.digits ++ [c]
      if Nat.pow 2 64 - 1 ≤ Decimal.natOfDigits digits then
        let number := String.ofList (digits ++ cs.takeWhile Char.isDigit)
        .error (w.large ++ quoted number ++ " is too large")
      else readItems w { item with digits } cs
    else .error (w.value ++ quoted (String.ofList (c :: cs)))

/-- Whether a range reaches a place. -/
def reaches (last : Option Nat) (place : Nat) : Bool :=
  last.all fun n => decide (place ≤ n)

/-- The later end of two ranges. -/
def laterEnd : Option Nat → Option Nat → Option Nat
  | some a, some b => some (max a b)
  | _, _ => none

/-- Ranges with those that overlap put together, from those in front on. -/
def mergedFrom (pending : Nat × Option Nat) : Columns → Columns
  | [] => [pending]
  | (start, last) :: rest =>
    if reaches pending.2 start then mergedFrom (pending.1, laterEnd pending.2 last) rest
    else pending :: mergedFrom (start, last) rest

/-- Ranges in order, overlapping ones put together. -/
def ordered (ranges : Columns) : Columns :=
  match ranges.mergeSort fun a b => decide (a.1 ≤ b.1) with
  | [] => []
  | first :: rest => mergedFrom first rest

/-- The columns between ordered ranges, from a place on. -/
def complement (place : Nat) : Columns → Columns
  | [] => [(place, none)]
  | (start, last) :: rest =>
    let gap := if place < start then [(place, some (start - 1))] else []
    match last with
    | none => gap
    | some last => gap ++ complement (last + 1) rest

/-- The columns that a text lists. -/
def read (w : Words) (text : String) : Except String Columns := do
  return ordered (← readItems w {} text.toList)

/-- The items at the places of ordered ranges, those of each range together. -/
def pick {α : Type} (place : Nat) : Columns → List α → List (List α)
  | [], _ => []
  | (start, last) :: rest, items =>
    let items := items.drop (start - place)
    match last with
    | none => if items.isEmpty then [] else [items]
    | some last =>
      let found := items.take (last + 1 - start)
      if found.isEmpty then [] else found :: pick (last + 1) rest (items.drop (last + 1 - start))

end Columns

/-! ## Parts of lines -/

/-- The parts of characters between separators. -/
def fieldsAt (separator : Char) (cs : List Char) : List (List Char) :=
  let (fields, last) := cs.foldr
    (fun c (acc : List (List Char) × List Char) =>
      if c = separator then (acc.2 :: acc.1, []) else (acc.1, c :: acc.2))
    ([], [])
  last :: fields

/-- How `cut` takes its parts from lines. -/
structure CutStyle where
  byFields : Bool
  columns : Columns
  separator : Char := '\t'
  joint : List Char := []
  onlySeparated : Bool := false

/-- The part of a line, if it has one. -/
def CutStyle.part? (style : CutStyle) (line : List Char) : Option (List Char) :=
  let joined (parts : List (List Char)) : List Char := style.joint.intercalate parts
  if style.byFields then
    if line.contains style.separator then
      some (joined (Columns.pick 1 style.columns (fieldsAt style.separator line)).flatten)
    else if style.onlySeparated then none
    else some line
  else some (joined (Columns.pick 1 style.columns line))

/-- How `cut` is to go about, or what is wrong with its options. -/
def cutStyle (o : Options) : Except String CutStyle := do
  let lists := o.given.filter fun g => g.1 = 'b' || g.1 = 'c' || g.1 = 'f'
  match lists with
  | [] => throw "you must specify a list of bytes, characters, or fields"
  | [(letter, text?)] =>
    let byFields := letter = 'f'
    if !byFields && o.has 'd' then
      throw "an input delimiter may be specified only when operating on fields"
    if !byFields && o.has 's' then
      throw ("suppressing non-delimited lines makes sense\n\tonly when operating on fields")
    let separators := (o.value? 'd').map String.toList
    if separators.any fun d => 1 < d.length then
      throw "the delimiter must be a single character"
    let separator := match separators with
      | some d => d.headD '\x00'
      | none => '\t'
    let columns ← Columns.read (if byFields then .fields else .positions) (text?.getD "")
    let columns := if o.has 'C' then Columns.complement 1 columns else columns
    let joint := match o.value? 'O' with
      | some joint => if joint.isEmpty then ['\x00'] else joint.toList
      | none => if byFields then [separator] else []
    return { byFields, columns, separator, joint, onlySeparated := o.has 's' }
  | _ => throw "only one list may be specified"

/-- Writes parts of lines: bytes, or fields. -/
def cutTool (tool : String) (arguments : List String) : Run Nat := do
  let table := OptionTable.ofText "b:c:d:f:nszCO:"
    [("bytes", 'b'), ("characters", 'c'), ("delimiter", 'd'), ("fields", 'f'),
      ("only-delimited", 's'), ("zero-terminated", 'z'), ("complement", 'C'),
      ("output-delimiter", 'O')]
  let isHidden (a : String) : Bool := a.startsWith "-C" || a.startsWith "-O"
  match arguments.find? isHidden with
  | some a =>
    complainOfUsage tool (OptionTable.unknownLetter ((a.toList.drop 1).headD 'C'))
    return 1
  | none =>
    withOptions tool 1 table arguments fun o => do
      match cutStyle o with
      | .error why =>
        complainOfUsage tool why
        return 1
      | .ok style =>
        let mark : UInt8 := if o.has 'z' then 0 else 10
        let back := [Char.ofNat mark.toNat]
        let (inputs, status) ← readOperands (.plain tool) 1 o.operands
        for input in inputs do
          outChars ((input.linesAt mark).flatMap fun line =>
            match style.part? line.text with
            | some part => part ++ back
            | none => [])
        starveBehind inputs
        return status

/-! ## Side by side -/

/-- The separators that `paste` takes in turn; none stands for nothing between two columns. -/
def pasteSeparators : List Char → List (Option Char)
  | '\\' :: c :: cs =>
    let separator := match c with
      | '0' => none
      | 'n' => some '\n'
      | 't' => some '\t'
      | 'b' => some '\x08'
      | 'f' => some '\x0c'
      | 'r' => some '\r'
      | 'v' => some '\x0b'
      | c => some c
    separator :: pasteSeparators cs
  | ['\\'] => []
  | c :: cs => some c :: pasteSeparators cs
  | [] => []

/-- Texts with separators between them, which are taken in turn. -/
def joinedInTurn (separators : Array (Option Char)) (turn : Nat) : List (List Char) → List Char
  | [] => []
  | [text] => text
  | text :: texts =>
    let separator := (separators[turn % separators.size]?.getD none).toList
    text ++ separator ++ joinedInTurn separators (turn + 1) texts

/-- The lines of inputs side by side, up to the end of the longest one.  Inputs that are the same
one take its lines in turn: `sources` are the inputs, and `columns` say which one a column takes. -/
def sideBySide (separators : Array (Option Char)) (columns : List Nat) :
    Nat → Array (List (List Char)) → List (List Char)
  | 0, _ => []
  | fuel + 1, sources =>
    let (sources, texts, found) := columns.foldl
      (fun (acc : Array (List (List Char)) × List (List Char) × Bool) i =>
        let (sources, texts, found) := acc
        match sources[i]?.getD [] with
        | line :: rest => (sources.set! i rest, line :: texts, true)
        | [] => (sources, [] :: texts, found))
      (sources, [], false)
    if found then
      joinedInTurn separators 0 texts.reverse :: sideBySide separators columns fuel sources
    else []

/-- Writes the lines of several inputs side by side, or those of each input in one line. -/
def pasteTool (tool : String) (arguments : List String) : Run Nat := do
  let table := OptionTable.ofText "d:sz"
    [("delimiters", 'd'), ("serial", 's'), ("zero-terminated", 'z')]
  withOptions tool 1 table arguments fun o => do
    let mark : UInt8 := if o.has 'z' then 0 else 10
    let given := pasteSeparators ((o.value? 'd').getD "\t").toList
    let separators := (if given.isEmpty then [none] else given).toArray
    let operands := if o.operands.isEmpty then ["-"] else o.operands
    let names := if o.has 's' then operands else operands.eraseDups
    let (inputs, status) ← readOperands (.plain tool) 1 names
    if status ≠ 0 && !o.has 's' then return status
    if ← haveAll inputs then
      let texts := inputs.map fun input => (input.linesAt mark).map Line.text
      let lines := if o.has 's' then texts.map (joinedInTurn separators 0)
        else
          let size := texts.foldl (fun n t => n + t.length) 1
          let columns := operands.map fun operand => (names.idxOf? operand).getD 0
          sideBySide separators columns size texts.toArray
      outChars (lines.flatMap fun line => line ++ [Char.ofNat mark.toNat])
    return status

/-! ## Sorted inputs -/

/-- Lines in one or both of two sorted lists, with the number of the column that they belong to. -/
def compared : Nat → List (List Char) → List (List Char) → List (Nat × List Char)
  | 0, _, _ => []
  | _, as, [] => as.map fun a => (1, a)
  | _, [], bs => bs.map fun b => (2, b)
  | fuel + 1, a :: as, b :: bs =>
    if a = b then (3, a) :: compared fuel as bs
    else if a < b then (1, a) :: compared fuel as (b :: bs)
    else (2, b) :: compared fuel (a :: as) bs

/-- Whether lines are in order. -/
def isInOrder : List (List Char) → Bool
  | a :: b :: rest => !decide (b < a) && isInOrder (b :: rest)
  | _ => true

/-- Whether exactly two operands are given; else says what is wrong with them. -/
def haveTwo (tool : String) (operands : List String) : Run Bool := do
  match operands with
  | [_, _] => return true
  | [] => complainOfUsage tool "missing operand"
  | [a] => complainOfUsage tool ("missing operand after " ++ quoted a)
  | _ :: _ :: c :: _ => complainOfUsage tool ("extra operand " ++ quoted c)
  return false

/-- Writes which lines two sorted inputs have in common, and which not. -/
def commTool (tool : String) (arguments : List String) : Run Nat := do
  let table := OptionTable.ofText "123O:Tnz"
    [("output-delimiter", 'O'), ("total", 'T'), ("nocheck-order", 'n'), ("check-order", 'n'),
      ("zero-terminated", 'z')]
  withOptions tool 1 table arguments fun o => do
    unless ← haveTwo tool o.operands do return 1
    let (inputs, status) ← readOperands (.plain tool) 1 o.operands
    match inputs with
    | [a, b] =>
      unless ← haveAll inputs do return 1
      let joint := ((o.value? 'O').getD "\t").toList
      let (as, bs) := (a.texts, b.texts)
      let rows := compared (as.length + bs.length + 1) as bs
      let shown := fun (n : Nat) => !o.has (Char.ofNat (48 + n))
      let line (row : Nat × List Char) : List (List Char) :=
        let before := (List.range row.1).filter fun n => n ≠ 0 && row.1 ≠ n && shown n
        if shown row.1 then [(before.flatMap fun _ => joint) ++ row.2] else []
      outLines (rows.flatMap line)
      if o.has 'T' then
        let count (n : Nat) : List Char := Decimal.digits (rows.countP fun row => row.1 = n)
        outLines [joint.intercalate [count 1, count 2, count 3, "total".toList]]
      let faults := ([as, bs].zipIdx 1).filter fun f => !isInOrder f.1
      if faults.isEmpty || o.has 'n' then return status
      for (_, n) in faults do
        complain (tool ++ ": file " ++ Decimal.natText n ++ " is not in sorted order")
      failing 1 tool "input is not in sorted order"
    | _ => return status

/-- How `join` goes about. -/
structure JoinStyle where
  separator : Option Char := none
  first : Nat := 1
  second : Nat := 1
  ignoreCase : Bool := false
  unpaired : List Nat := []
  onlyUnpaired : Bool := false
  filler : List Char := []
  /-- which fields are written: of which input, and the number; zero is the field that agrees -/
  layout : List (Nat × Nat) := []

/-- The fields of a line. -/
def JoinStyle.fields (style : JoinStyle) (line : List Char) : List (List Char) :=
  match style.separator with
  | some c => fieldsAt c line
  | none => (line.splitBy fun a b => (a = ' ' || a = '\t') = (b = ' ' || b = '\t')).filter fun f =>
      f.head?.all fun c => c ≠ ' ' && c ≠ '\t'

/-- The field in which lines are to agree. -/
def JoinStyle.key (style : JoinStyle) (n : Nat) (fields : List (List Char)) : List Char :=
  let key := fields[n - 1]?.getD []
  if style.ignoreCase then key.map Char.toLower else key

/-- A line of the output from the fields of a line of each input. -/
def JoinStyle.line (style : JoinStyle) (a b : List (List Char)) : List Char :=
  let key := if a.isEmpty then b[style.second - 1]?.getD [] else a[style.first - 1]?.getD []
  let field (f : Nat × Nat) : List Char :=
    let found := match f.1 with
      | 0 => some key
      | 1 => a[f.2 - 1]?
      | _ => b[f.2 - 1]?
    match found with
    | some [] | none => style.filler
    | some text => text
  let fields := if style.layout.isEmpty then
      key :: a.eraseIdx (style.first - 1) ++ b.eraseIdx (style.second - 1)
    else style.layout.map field
  [style.separator.getD ' '].intercalate fields

/-- The lines of two sorted inputs that agree in a field. -/
def JoinStyle.rows (style : JoinStyle) :
    Nat → List (List (List Char)) → List (List (List Char)) → List (List Char)
  | 0, _, _ => []
  | fuel + 1, as, bs =>
    let lonely (n : Nat) (a b : List (List Char)) : List (List Char) :=
      if style.unpaired.contains n then [style.line a b] else []
    match as, bs with
    | [], [] => []
    | a :: as, [] => lonely 1 a [] ++ style.rows fuel as []
    | [], b :: bs => lonely 2 [] b ++ style.rows fuel [] bs
    | a :: as, b :: bs =>
      let (ka, kb) := (style.key style.first a, style.key style.second b)
      if ka < kb then lonely 1 a [] ++ style.rows fuel as (b :: bs)
      else if kb < ka then lonely 2 [] b ++ style.rows fuel (a :: as) bs
      else
        let sameA := a :: as.takeWhile fun x => style.key style.first x = ka
        let sameB := b :: bs.takeWhile fun x => style.key style.second x = ka
        let paired := if style.onlyUnpaired then []
          else sameA.flatMap fun x => sameB.map fun y => style.line x y
        paired ++ style.rows fuel (as.drop (sameA.length - 1)) (bs.drop (sameB.length - 1))

/-- Writes the lines of two sorted inputs that agree in a field. -/
def joinTool (tool : String) (arguments : List String) : Run Nat := do
  let table := OptionTable.ofText "a:e:i1:2:j:o:t:v:z"
    [("ignore-case", 'i'), ("zero-terminated", 'z')]
  withOptions tool 1 table arguments fun o => do
    unless ← haveTwo tool o.operands do return 1
    let field (letter : Char) : Nat :=
      (((o.value? letter).or (o.value? 'j')).bind natOf?).getD 1
    let place (text : List Char) : Option (Nat × Nat) :=
      match fieldsAt '.' text with
      | [['0']] => some (0, 0)
      | [n, m] => some (Decimal.natOfDigits n, Decimal.natOfDigits m)
      | _ => none
    let layout := (o.values 'o').flatMap fun text =>
      ((text.toList.splitBy fun a b => a ≠ ',' && b ≠ ',' && a ≠ ' ' && b ≠ ' ').filterMap place)
    let style : JoinStyle :=
      { separator := (o.value? 't').bind fun t => t.toList.head?
        first := field '1'
        second := field '2'
        ignoreCase := o.has 'i'
        unpaired := (o.values 'a' ++ o.values 'v').filterMap natOf?
        onlyUnpaired := o.has 'v'
        filler := ((o.value? 'e').getD "").toList
        layout }
    let (inputs, status) ← readOperands (.plain tool) 1 o.operands
    match inputs with
    | [a, b] =>
      unless ← haveAll inputs do return 1
      let (as, bs) := (a.texts.map style.fields, b.texts.map style.fields)
      outLines (style.rows (as.length + bs.length + 1) as bs)
      return status
    | _ => return status

/-! ## Widths -/

/-- The column behind a character, from the column in front of it. -/
def columnBehind (inBytes : Bool) (column : Nat) (c : Char) : Nat :=
  if inBytes then column + 1
  else
    match c with
    | '\x08' => column - 1
    | '\r' => 0
    | '\t' => column + 8 - column % 8
    | _ => column + 1

/-- The columns that characters take, from the first column on. -/
def widthOf (inBytes : Bool) (cs : List Char) : Nat :=
  cs.foldl (columnBehind inBytes) 0

/-- A line folded to a width; `begun` is the line so far, in reverse, which ends at a column. -/
def foldedLine (inBytes atBlanks : Bool) (width : Nat) :
    Nat → List Char → Nat → List Char → List Char
  | 0, begun, _, cs => begun.reverse ++ cs
  | _, begun, _, [] => begun.reverse
  | fuel + 1, begun, column, c :: cs =>
    let next := columnBehind inBytes column c
    if next ≤ width || begun.isEmpty then
      foldedLine inBytes atBlanks width fuel (c :: begun) next cs
    else
      let tail := if atBlanks then begun.takeWhile fun d => d ≠ ' ' && d ≠ '\t' else []
      let front := begun.drop tail.length
      if atBlanks && !front.isEmpty then
        let rest := tail.reverse
        front.reverse ++ '\n'
          :: foldedLine inBytes atBlanks width fuel tail (widthOf inBytes rest) (c :: cs)
      else begun.reverse ++ '\n' :: foldedLine inBytes atBlanks width fuel [] 0 (c :: cs)

/-- Arguments in which a number behind a dash is written as an option of its own. -/
def spelledOutNumber (option : String) (arguments : List String) : List String :=
  arguments.flatMap fun a =>
    match a.toList with
    | '-' :: d :: ds =>
      if (d :: ds).all Char.isDigit then [option, String.ofList (d :: ds)] else [a]
    | _ => [a]

/-- Folds lines to a width. -/
def foldTool (tool : String) (arguments : List String) : Run Nat := do
  let table := OptionTable.ofText "bsw:" [("bytes", 'b'), ("spaces", 's'), ("width", 'w')]
  withOptions tool 1 table (spelledOutNumber "-w" arguments) fun o => do
    let text := (o.value? 'w').getD "80"
    match natOf? text with
    | none | some 0 => failing 1 tool ("invalid number of columns: " ++ quoted text)
    | some width =>
      let (inputs, status) ← readOperands (.plain tool) 1 o.operands
      for input in inputs do
        outAsClosed (input.lines.map fun line =>
          { line with
            text := foldedLine (o.has 'b') (o.has 's') width (2 * line.text.length + 2) [] 0
              line.text })
      starveBehind inputs
      return status

/-- The column of the next tab stop behind a column: at some places, or at each multiple of a
size. -/
def nextStop (stops : List Nat) (column : Nat) : Nat :=
  match stops with
  | [size] => column + size - column % size
  | stops => (stops.find? fun stop => column < stop).getD (column + 1)

/-- The tab stops that an option gives. -/
def tabStops (o : Options) : List Nat :=
  let given := (o.values 't').flatMap fun text =>
    (text.toList.splitBy fun a b => a.isDigit && b.isDigit).filterMap fun ds =>
      natOf? (String.ofList ds)
  let stops := given.filter (· ≠ 0)
  if stops.isEmpty then [8] else stops

/-- A line with blanks in the place of tabs. -/
def expandedLine (stops : List Nat) (onlyFirst : Bool) (column : Nat) : List Char → List Char
  | [] => []
  | c :: cs =>
    match c with
    | '\t' =>
      let next := nextStop stops column
      List.replicate (next - column) ' ' ++ expandedLine stops onlyFirst next cs
    | '\x08' => c :: expandedLine stops onlyFirst (column - 1) cs
    | c =>
      if onlyFirst && c ≠ ' ' then c :: cs
      else c :: expandedLine stops onlyFirst (column + 1) cs

/-- Writes blanks in the place of tabs. -/
def expandTool (tool : String) (arguments : List String) : Run Nat := do
  let table := OptionTable.ofText "it:" [("initial", 'i'), ("tabs", 't')]
  withOptions tool 1 table (spelledOutNumber "-t" arguments) fun o => do
    let (inputs, status) ← readOperands (.plain tool) 1 o.operands
    for input in inputs do
      outAsClosed (input.lines.map fun line =>
        { line with text := expandedLine (tabStops o) (o.has 'i') 0 line.text })
    starveBehind inputs
    return status

/-- A line with tabs in the place of blanks that end at tab stops; `blanks` are those that wait, and
begin at the column `start`. -/
def unexpandedLine (stops : List Nat) (onlyFirst : Bool) (start column : Nat) (blanks : List Char) :
    List Char → List Char
  | [] => blanks.reverse
  | c :: cs =>
    if c = ' ' || c = '\t' then
      let next := if c = '\t' then nextStop stops column else column + 1
      let ends := next = nextStop stops (next - 1) && (c = '\t' || 1 < next - start)
      if ends then '\t' :: unexpandedLine stops onlyFirst next next [] cs
      else unexpandedLine stops onlyFirst start next (c :: blanks) cs
    else if onlyFirst then blanks.reverse ++ c :: cs
    else blanks.reverse ++ c :: unexpandedLine stops onlyFirst (column + 1) (column + 1) [] cs

/-- Writes tabs in the place of blanks. -/
def unexpandTool (tool : String) (arguments : List String) : Run Nat := do
  let table := OptionTable.ofText "aft:" [("all", 'a'), ("first-only", 'f'), ("tabs", 't')]
  withOptions tool 1 table (spelledOutNumber "-t" arguments) fun o => do
    let (inputs, status) ← readOperands (.plain tool) 1 o.operands
    let onlyFirst := !o.hasAny ['a', 't'] || o.has 'f'
    for input in inputs do
      outAsClosed (input.lines.map fun line =>
        { line with text := unexpandedLine (tabStops o) onlyFirst 0 0 [] line.text })
    starveBehind inputs
    return status

end LayerNet.Shell
