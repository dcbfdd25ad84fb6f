import LayerNet.Shell.Format
import LayerNet.Shell.Tools.Input
import LayerNet.Shell.Tools.Options

/-!
# Tools for sorted lines

Lines are compared by keys, each of them a part of the line with an order of its own.

Main definitions:

- `SortOrder`, `SortKey`: how lines are compared.
- `sortTool`: lines in order.
- `uniqTool`: runs of equal lines.
-/

namespace LayerNet.Shell

/-! ## Orders -/

/-- How parts of lines are compared. -/
structure SortOrder where
  onlyWords : Bool := false
  onlyShown : Bool := false
  foldsCase : Bool := false
  numeric : Bool := false
  general : Bool := false
  human : Bool := false
  month : Bool := false
  version : Bool := false
  random : Bool := false
  skipsFront : Bool := false
  skipsBack : Bool := false
  reversed : Bool := false
deriving DecidableEq, Repr

/-- A part of a line, and its order: the field and the character that it begins with, counted from
zero, and those in front of which it ends. -/
structure SortKey where
  field : Nat := 0
  char : Nat := 0
  lastField : Option Nat := none
  lastChar : Nat := 0
  order : SortOrder := {}

namespace SortOrder

/-- Whether nothing is said about the order. -/
def isPlain (o : SortOrder) : Bool :=
  { o with reversed := false } = {}

/-- The order with what a letter adds; `atStart` tells whether it stands at the start of a key. -/
def withLetter (o : SortOrder) (atStart atEnd : Bool) (letter : Char) : Option SortOrder :=
  match letter with
  | 'b' => some { o with
      skipsFront := o.skipsFront || atStart, skipsBack := o.skipsBack || atEnd }
  | 'd' => some { o with onlyWords := true }
  | 'f' => some { o with foldsCase := true }
  | 'g' => some { o with general := true }
  | 'h' => some { o with human := true }
  | 'i' => some { o with onlyShown := !o.onlyWords || o.onlyShown }
  | 'M' => some { o with month := true }
  | 'n' => some { o with numeric := true }
  | 'R' => some { o with random := true }
  | 'r' => some { o with reversed := true }
  | 'V' => some { o with version := true }
  | _ => none

/-- The letters of orders that exclude each other, if there are such. -/
def conflict? (o : SortOrder) : Option String :=
  let ignores := o.onlyWords || o.onlyShown
  let count := [o.numeric, o.general, o.human, o.month, o.version || o.random || ignores].count true
  if count ≤ 1 then none
  else
    let letters := [(o.onlyWords, 'd'), (o.foldsCase, 'f'), (o.general, 'g'), (o.human, 'h'),
      (o.onlyShown && !o.onlyWords, 'i'), (o.month, 'M'), (o.numeric, 'n'), (o.random, 'R'),
      (o.version, 'V')]
    some (String.ofList ((letters.filter Prod.fst).map Prod.snd))

/-- Whether a character separates fields. -/
def isGap (c : Char) : Bool :=
  c = ' ' || c = '\t' || c = '\n'

/-- The order of two texts by their characters. -/
def compareChars : List Char → List Char → Ordering
  | [], [] => .eq
  | [], _ => .lt
  | _, [] => .gt
  | a :: as, b :: bs => (compare a.toNat b.toNat).then (compareChars as bs)

/-- A number as it is compared: its sign, and its digits in front of the point and behind it. -/
structure Numeral where
  isNegative : Bool
  whole : List Char
  fraction : List Char
  rest : List Char

/-- The number in front of a text. -/
def numeralOf (cs : List Char) : Numeral :=
  let cs := cs.dropWhile isGap
  let isNegative := cs.head? = some '-'
  let cs := if isNegative then cs.tail else cs
  let whole := cs.takeWhile Char.isDigit
  let behind := cs.drop whole.length
  let fraction := match behind with
    | '.' :: ds => ds.takeWhile Char.isDigit
    | _ => []
  let rest := match behind with
    | '.' :: ds => ds.drop fraction.length
    | rest => rest
  { isNegative
    whole := whole.dropWhile (· = '0')
    fraction := (fraction.reverse.dropWhile (· = '0')).reverse
    rest }

/-- Whether a number is zero. -/
def Numeral.isZero (n : Numeral) : Bool :=
  n.whole.isEmpty && n.fraction.isEmpty

/-- The order of two numbers without their signs. -/
def Numeral.compareSize (a b : Numeral) : Ordering :=
  ((compare a.whole.length b.whole.length).then (compareChars a.whole b.whole)).then
    (compareChars a.fraction b.fraction)

/-- The order of two values of which each may be negative, from that of their sizes. -/
def compareSigned (negativeA negativeB : Bool) (size : Ordering) : Ordering :=
  match negativeA, negativeB with
  | false, false => size
  | true, true => size.swap
  | true, false => .lt
  | false, true => .gt

/-- The order of the numbers in front of two texts. -/
def compareNumerals (a b : Numeral) : Ordering :=
  compareSigned (a.isNegative && !a.isZero) (b.isNegative && !b.isZero) (a.compareSize b)

/-- The rank of the unit behind a number. -/
def unitRank (n : Numeral) : Nat :=
  match n.rest.head? with
  | some c =>
    if n.isZero then 0
    else if c = 'k' then 1
    else ("KMGTPEZYRQ".toList.idxOf? c).elim 0 (· + 1)
  | none => 0

/-- The order of the sizes in front of two texts, by their units first. -/
def compareSizes (a b : Numeral) : Ordering :=
  let negativeA := a.isNegative && !a.isZero
  let negativeB := b.isNegative && !b.isZero
  let size := (compare (unitRank a) (unitRank b)).then (a.compareSize b)
  if a.isZero && b.isZero then .eq else compareSigned negativeA negativeB size

/-- The order of the floats in front of two texts; what is no number stands first, then what is not
a number as a float. -/
def compareFloats (a b : List Char) : Ordering :=
  let rank (x : Option (Float × List Char)) : Nat :=
    match x with
    | none => 0
    | some (x, _) => if x.isNaN then 1 else 2
  let (x, y) := (leadingFloat? a, leadingFloat? b)
  (compare (rank x) (rank y)).then
    (match x, y with
      | some (x, _), some (y, _) => if x < y then .lt else if y < x then .gt else .eq
      | _, _ => .eq)

/-- The number of the month whose name begins a text, zero if none does. -/
def monthOf (cs : List Char) : Nat :=
  let name := String.ofList (((cs.dropWhile isGap).take 3).map Char.toUpper)
  let names := ["JAN", "FEB", "MAR", "APR", "MAY", "JUN", "JUL", "AUG", "SEP", "OCT", "NOV", "DEC"]
  (names.idxOf? name).elim 0 (· + 1)

/-! ### Versions -/

/-- The rank of a character that is no digit, in a version. -/
def versionRank (c? : Option Char) : Int :=
  match c? with
  | none => -1
  | some c =>
    if c.isDigit then 0 else if c.isAlpha then c.toNat else if c = '~' then -2 else c.toNat + 256

/-- The order of two versions: of what is no number by characters, of numbers by their values. -/
def compareParts : Nat → List Char → List Char → Ordering
  | 0, _, _ => .eq
  | _, [], [] => .eq
  | fuel + 1, a, b =>
    let isOpen (cs : List Char) : Bool := (cs.head?.map fun c => !c.isDigit).getD false
    if isOpen a || isOpen b then
      (compare (versionRank a.head?) (versionRank b.head?)).then
        (compareParts fuel a.tail b.tail)
    else
      let (a, b) := (a.dropWhile (· = '0'), b.dropWhile (· = '0'))
      let (da, db) := (a.takeWhile Char.isDigit, b.takeWhile Char.isDigit)
      ((compare da.length db.length).then (compareChars da db)).then
        (compareParts fuel (a.drop da.length) (b.drop db.length))

/-- How long a name is without its endings, each a point and letters or digits. -/
def stemLength (cs : List Char) : Nat :=
  let step (acc : Nat × Option Nat) (entry : Char × Nat) : Nat × Option Nat :=
    let (c, i) := entry
    match acc.2 with
    | some start =>
      let isFirst := i = start + 1
      if c = '.' && !isFirst then (acc.1, some i)
      else if c.isAlpha || c = '~' || (c.isDigit && !isFirst) then acc
      else if c = '.' then (i, some i)
      else (i + 1, none)
    | none => if c = '.' then (i, some i) else (i + 1, none)
  let (stem, pending) := cs.zipIdx.foldl step (0, none)
  match pending with
  | some start => if start + 1 = cs.length then cs.length else stem
  | none => cs.length

/-- The order of two names with versions in them; hidden names stand in front, and endings count
only between names that are else the same. -/
def compareVersions (a b : List Char) : Ordering :=
  let rank (cs : List Char) : Nat :=
    match cs with
    | [] => 0
    | ['.'] => 1
    | ['.', '.'] => 2
    | '.' :: _ => 3
    | _ => 4
  let fuel := a.length + b.length + 2
  (compare (rank a) (rank b)).then
    ((compareParts fuel (a.take (stemLength a)) (b.take (stemLength b))).then
      (compareParts fuel a b))

/-- The characters of a part that count. -/
def counted (o : SortOrder) (cs : List Char) : List Char :=
  let cs := if o.onlyWords then cs.filter fun c => c.isAlphanum || isGap c
    else if o.onlyShown then cs.filter fun c => 32 ≤ c.toNat && c.toNat ≤ 126
    else cs
  if o.foldsCase then cs.map Char.toUpper else cs

/-- The order of two parts. -/
def compareTexts (o : SortOrder) (a b : List Char) : Ordering :=
  let (a, b) := (o.counted a, o.counted b)
  let found :=
    if o.numeric then compareNumerals (numeralOf a) (numeralOf b)
    else if o.general then compareFloats a b
    else if o.human then compareSizes (numeralOf a) (numeralOf b)
    else if o.month then compare (monthOf a) (monthOf b)
    else if o.version then compareVersions a b
    else compareChars a b
  if o.reversed then found.swap else found

end SortOrder

/-! ## Keys -/

namespace SortKey

/-- The characters behind a number of fields. -/
def behindFields (separator : Option Char) : Nat → List Char → List Char
  | 0, cs => cs
  | n + 1, cs =>
    match separator with
    | some c => behindFields separator n ((cs.dropWhile (· ≠ c)).drop 1)
    | none =>
      behindFields separator n
        ((cs.dropWhile SortOrder.isGap).dropWhile fun c => !SortOrder.isGap c)

/-- How many characters of a line stand in front of the end of a key. -/
def stop (k : SortKey) (separator : Option Char) (line : List Char) : Nat :=
  match k.lastField with
  | none => line.length
  | some field =>
    let fields := if k.lastChar = 0 then field + 1 else field
    let rest := behindFields separator fields line
    if k.lastChar = 0 then
      let size := line.length - rest.length
      let isSeparated : Bool := match separator with
        | some c => fields ≤ line.count c
        | none => false
      if isSeparated then size - 1 else size
    else
      let rest := if k.order.skipsBack then rest.dropWhile SortOrder.isGap else rest
      line.length - (rest.length - min k.lastChar rest.length)

/-- The part of a line that a key is. -/
def part (k : SortKey) (separator : Option Char) (line : List Char) : List Char :=
  let rest := behindFields separator k.field line
  let rest := if k.order.skipsFront then rest.dropWhile SortOrder.isGap else rest
  let rest := rest.drop k.char
  rest.take (k.stop separator line - (line.length - rest.length))

/-- What is said of a key that cannot be read. -/
def refusal (why text : String) : String :=
  why ++ ": invalid field specification " ++ quoted text

/-- Reads the letters of an order. -/
def readLetters (text : String) (atStart atEnd : Bool) (o : SortOrder) :
    List Char → Except String (SortOrder × List Char)
  | [] => .ok (o, [])
  | c :: cs =>
    match o.withLetter atStart atEnd c with
    | some o => readLetters text atStart atEnd o cs
    | none =>
      if c = ',' && atStart then .ok (o, c :: cs)
      else .error (refusal "stray character in field spec" text)

/-- Reads a number, which must be there. -/
def readNumber (what : String) (cs : List Char) : Except String (Nat × List Char) :=
  let digits := cs.takeWhile Char.isDigit
  if digits.isEmpty then
    .error (what ++ ": invalid count at start of " ++ quoted (String.ofList cs))
  else .ok (Decimal.natOfDigits digits, cs.drop digits.length)

/-- The key that a text describes. -/
def read (text : String) : Except String SortKey := do
  let (field, rest) ← readNumber "invalid number at field start" text.toList
  if field = 0 then throw (refusal "field number is zero" text)
  let (char, rest) ← match rest with
    | '.' :: rest => do
      let (n, rest) ← readNumber "invalid number after '.'" rest
      if n = 0 then throw (refusal "character offset is zero" text)
      pure (n - 1, rest)
    | rest => pure (0, rest)
  let (order, rest) ← readLetters text true false {} rest
  let key : SortKey := { field := field - 1, char, order }
  match rest with
  | ',' :: rest =>
    let (last, rest) ← readNumber "invalid number after ','" rest
    if last = 0 then throw (refusal "field number is zero" text)
    let (lastChar, rest) ← match rest with
      | '.' :: rest => readNumber "invalid number after '.'" rest
      | rest => pure (0, rest)
    let (order, _) ← readLetters text false true order rest
    return { key with lastField := some (last - 1), lastChar, order }
  | _ => return key

end SortKey

/-! ## Sorting -/

/-- How `sort` goes about. -/
structure SortStyle where
  keys : List SortKey
  separator : Option Char
  reversed : Bool
  isStable : Bool
  onlyOnce : Bool

namespace SortStyle

/-- The order of two lines by their keys. -/
def compareKeys (style : SortStyle) (a b : List Char) : List SortKey → Ordering
  | [] => .eq
  | k :: ks =>
    (k.order.compareTexts (k.part style.separator a) (k.part style.separator b)).then
      (style.compareKeys a b ks)

/-- The order of two lines. -/
def compareLines (style : SortStyle) (a b : List Char) : Ordering :=
  let whole := SortOrder.compareChars a b
  let whole := if style.reversed then whole.swap else whole
  if style.keys.isEmpty then whole
  else
    let byKeys := style.compareKeys a b style.keys
    if style.isStable || style.onlyOnce then byKeys else byKeys.then whole

/-- Lines in order without those that are like the one before. -/
def withoutRepeats (style : SortStyle) : List (List Char) → List (List Char)
  | a :: b :: rest =>
    if style.compareLines a b = .eq then style.withoutRepeats (a :: rest)
    else a :: style.withoutRepeats (b :: rest)
  | lines => lines
termination_by lines => lines.length

/-- The number of the first line that is not in order, with the line. -/
def disorder? (style : SortStyle) : List (List Char × Nat) → Option (List Char × Nat)
  | (a, _) :: (b, n) :: rest =>
    let found := style.compareLines a b
    if found = .gt || (style.onlyOnce && found = .eq) then some (b, n)
    else style.disorder? ((b, n) :: rest)
  | _ => none

/-- Two lists of lines as one, of whose first lines always the smaller one goes first. -/
def merge (style : SortStyle) : Nat → List (List Char) → List (List Char) → List (List Char)
  | 0, as, bs => as ++ bs
  | _, [], bs => bs
  | _, as, [] => as
  | fuel + 1, a :: as, b :: bs =>
    if style.compareLines a b = .gt then b :: style.merge fuel (a :: as) bs
    else a :: style.merge fuel as (b :: bs)

end SortStyle

/-- The order that the options of `sort` ask for. -/
def generalOrder (o : Options) : SortOrder :=
  o.given.foldl
    (fun order g =>
      if g.1 = 'W' then
        match g.2.getD "" with
        | "general-numeric" => { order with general := true }
        | "human-numeric" => { order with human := true }
        | "month" => { order with month := true }
        | "numeric" => { order with numeric := true }
        | "random" => { order with random := true }
        | "version" => { order with version := true }
        | _ => order
      else if g.2.isSome then order
      else (order.withLetter true true g.1).getD order)
    {}

/-- How `sort` is to go about, or what is wrong with its options. -/
def sortStyle (o : Options) : Except String SortStyle := do
  let separator ← match o.value? 't' with
    | none => pure none
    | some text =>
      match text.toList with
      | [] => throw "empty tab"
      | [c] => pure (some c)
      | ['\\', '0'] => pure (some '\x00')
      | _ => throw ("multi-character tab " ++ quoted text)
  let order := generalOrder o
  let given ← (o.values 'k').mapM SortKey.read
  let keys := given.map fun k =>
    if k.order.isPlain && !k.order.reversed then { k with order } else k
  let keys := if given.isEmpty && !order.isPlain then [{ order : SortKey }] else keys
  for k in keys do
    if let some letters := k.order.conflict? then
      throw ("options '-" ++ letters ++ "' are incompatible")
  return { keys, separator, reversed := order.reversed, isStable := o.has 's',
           onlyOnce := o.has 'u' }

/-- Writes to a file in the place of the standard output if one is given; gives what is wrong if it
cannot be opened. -/
def intoFile (path? : Option String) (act : Run Unit) : Run (Option FileFault) := do
  match path? with
  | none =>
    act
    return none
  | some path =>
    match ← openForWriting path .create with
    | .error fault => return some fault
    | .ok channel =>
      let before := (← get).descriptors
      leadTo 1 channel
      act
      modify fun s => { s with descriptors := before }
      return none

/-- Whether lines are in order; says which is the first that is not. -/
def checkOrder (tool : String) (style : SortStyle) (silent : Bool) (mark : UInt8) (input : Input) :
    Run Nat := do
  match style.disorder? (((input.linesAt mark).map Line.text).zipIdx 1) with
  | none => return 0
  | some (line, n) =>
    unless silent do
      complain (tool ++ ": " ++ input.name ++ ":" ++ Decimal.natText n ++ ": disorder: "
        ++ String.ofList line)
    return 1

/-- Sorts lines. -/
def sortTool (tool : String) (arguments : List String) : Run Nat := do
  let table := OptionTable.ofText "bcCdfghik:mMno:rRsS:t:T:uVzW:"
    [("check", 'c'), ("dictionary-order", 'd'), ("general-numeric-sort", 'g'),
      ("human-numeric-sort", 'h'), ("ignore-case", 'f'), ("ignore-leading-blanks", 'b'),
      ("ignore-nonprinting", 'i'), ("key", 'k'), ("merge", 'm'), ("month-sort", 'M'),
      ("numeric-sort", 'n'), ("output", 'o'), ("random-sort", 'R'), ("reverse", 'r'),
      ("sort", 'W'), ("stable", 's'), ("buffer-size", 'S'), ("field-separator", 't'),
      ("temporary-directory", 'T'), ("unique", 'u'), ("version-sort", 'V'),
      ("zero-terminated", 'z')]
  withOptions tool 2 table arguments fun o => do
    match sortStyle o with
    | .error why => failing 2 tool why
    | .ok style =>
      let mark : UInt8 := if o.has 'z' then 0 else 10
      let checks := o.hasAny ['c', 'C']
      let second? := o.operands[1]?
      if let (true, some operand) := (checks, second?) then
        return ← failing 2 tool ("extra operand " ++ quoted operand ++ " not allowed with -"
          ++ (if o.has 'c' then "c" else "C"))
      let files := (← get).files
      for operand in o.operands do
        if operand ≠ "-" && (descriptorOfPath? operand).isNone then
          if let .error fault := files.locate (toText operand) then
            return ← failing 2 tool ("cannot read: " ++ shownName operand ++ ": " ++ fault.text)
      let faults : InputFaults :=
        { opening := fun path why => tool ++ ": cannot read: " ++ shownName path ++ ": " ++ why
          reading := fun path why => tool ++ ": read failed: " ++ shownName path ++ ": " ++ why }
      let (inputs, status) ← readOperands faults 2 o.operands
      if status ≠ 0 then return status
      unless ← haveAll inputs do return 2
      match checks, inputs with
      | true, input :: _ => checkOrder tool style (o.has 'C') mark input
      | _, inputs =>
        let texts := inputs.map fun input => (input.linesAt mark).map Line.text
        let lines := if o.has 'm' then
            texts.foldl (fun merged lines =>
              style.merge (merged.length + lines.length + 1) merged lines) []
          else texts.flatten.mergeSort fun a b => style.compareLines a b != .gt
        let lines := if style.onlyOnce then style.withoutRepeats lines else lines
        let back := [Char.ofNat mark.toNat]
        match ← intoFile (o.value? 'o') (outChars (lines.flatMap (· ++ back))) with
        | none => return 0
        | some fault =>
          failing 2 tool ("open failed: " ++ shownName ((o.value? 'o').getD "") ++ ": "
            ++ fault.text)

/-! ## Runs of equal lines -/

/-- Lines in runs of equal ones. -/
def runsOf {α : Type} (same : α → α → Bool) : List α → List (List α)
  | [] => []
  | a :: rest =>
    match runsOf same rest with
    | (b :: run) :: runs => if same a b then (a :: b :: run) :: runs else [a] :: (b :: run) :: runs
    | runs => [a] :: runs

/-- How `uniq` compares lines: fields and characters that are passed over, how many characters
count, and whether their case does. -/
structure UniqStyle where
  fields : Nat := 0
  chars : Nat := 0
  width : Option Nat := none
  ignoreCase : Bool := false

/-- The part of a line that counts. -/
def UniqStyle.part (style : UniqStyle) (line : List Char) : List Char :=
  let rest := (SortKey.behindFields none style.fields line).drop style.chars
  let rest := match style.width with
    | some n => rest.take n
    | none => rest
  if style.ignoreCase then rest.map Char.toUpper else rest

/-- How `uniq` is to compare lines, or what is wrong with its options. -/
def uniqStyle (o : Options) : Except String UniqStyle := do
  let number (letter : Char) (what : String) : Except String (Option Nat) :=
    match o.value? letter with
    | none => .ok none
    | some text =>
      match countOf "" text with
      | .count n => .ok (some n)
      | .tooLarge => .ok (some (Nat.pow 2 64 - 1))
      | .invalid => .error (text ++ ": invalid number of " ++ what)
  let fields ← number 'f' "fields to skip"
  let chars ← number 's' "bytes to skip"
  let width ← number 'w' "bytes to compare"
  return { fields := fields.getD 0, chars := chars.getD 0, width, ignoreCase := o.has 'i' }

/-- Runs of lines as they are written. -/
def shownRuns (o : Options) (runs : List (List (List Char))) : List (List Char) :=
  let method := (o.value? 'A').getD "none"
  if o.hasAny ['D', 'A'] then
    let groups := runs.filter fun run => 1 < run.length
    match method with
    | "prepend" => groups.flatMap fun run => [] :: run
    | "separate" => ([[]] : List (List Char)).intercalate groups
    | _ => groups.flatten
  else if o.has 'G' then
    match (o.value? 'G').getD "separate" with
    | "prepend" => runs.flatMap fun run => [] :: run
    | "append" => runs.flatMap fun run => run ++ [[]]
    | "both" => [] :: runs.flatMap fun run => run ++ [[]]
    | _ => ([[]] : List (List Char)).intercalate runs
  else
    let kept := runs.filter fun run =>
      (run.length ≠ 1 || !o.has 'd') && (run.length = 1 || !o.has 'u')
    kept.map fun run =>
      (if o.has 'c' then numberIn 7 run.length ++ [' '] else []) ++ run.headD []

/-- Arguments in which a number behind a sign is written as an option of its own. -/
def spelledOutUniq (arguments : List String) : List String :=
  arguments.flatMap fun a =>
    match a.toList with
    | sign :: d :: ds =>
      if (d :: ds).all Char.isDigit then
        if sign = '-' then ["-f", String.ofList (d :: ds)]
        else if sign = '+' then ["-s", String.ofList (d :: ds)]
        else [a]
      else [a]
    | _ => [a]

/-- Writes each run of equal lines once. -/
def uniqTool (tool : String) (arguments : List String) : Run Nat := do
  let table := OptionTable.ofText "cdDuif:s:w:zA::G::"
    [("count", 'c'), ("repeated", 'd'), ("all-repeated", 'A'), ("group", 'G'), ("unique", 'u'),
      ("ignore-case", 'i'), ("skip-fields", 'f'), ("skip-chars", 's'), ("check-chars", 'w'),
      ("zero-terminated", 'z')]
  withOptions tool 1 table (spelledOutUniq arguments) fun o => do
    match uniqStyle o with
    | .error why => failing 1 tool why
    | .ok style =>
      if let some operand := o.operands[2]? then
        complainOfUsage tool ("extra operand " ++ quoted operand)
        return 1
      if o.has 'c' && o.hasAny ['D', 'A'] then
        complainOfUsage tool
          "printing all duplicated lines and repeat counts is meaningless"
        return 1
      let faults : InputFaults :=
        { InputFaults.plain tool with
          reading := fun path why => tool ++ ": error reading " ++ shellQuoted path ++ ": " ++ why }
      match ← readOperand faults (← endlessSize) (o.operands.headD "-") with
      | none => return 1
      | some input =>
        let mark : UInt8 := if o.has 'z' then 0 else 10
        let runs := runsOf (fun a b => style.part a == style.part b)
          ((input.linesAt mark).map Line.text)
        let runs := if input.isWhole then runs else runs.dropLast
        let back := [Char.ofNat mark.toNat]
        let written := (shownRuns o runs).flatMap (· ++ back)
        let target? := o.operands[1]?.filter (· ≠ "-")
        match ← intoFile target? (outChars written) with
        | some fault =>
          failing 1 tool (shownName (target?.getD "") ++ ": " ++ fault.text)
        | none =>
          unless input.isWhole do starve
          return 0

end LayerNet.Shell
