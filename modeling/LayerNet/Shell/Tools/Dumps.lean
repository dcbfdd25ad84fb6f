import LayerNet.Shell.Tools.Files

/-!
# Tools that show and copy bytes

Main definitions:

- `odTool`: bytes as numbers and characters.
- `baseTool`: bytes in an alphabet of 32 or 64 characters.
- `cksumTool`: check sums.
- `ddTool`: blocks of bytes.
- `splitTool`: pieces of an input in files of their own.
-/

namespace LayerNet.Shell

/-! ## Bytes as numbers -/

/-- How bytes are shown: in groups of a size, as numbers, characters or names. -/
structure DumpType where
  letter : Char
  size : Nat
  /-- whether characters are shown at the end of the row -/
  hasText : Bool := false
deriving DecidableEq, Repr

/-- How wide a group is, with the blank in front of it. -/
def DumpType.width (t : DumpType) : Nat :=
  let bits := 8 * t.size
  1 + match t.letter with
  | 'x' => 2 * t.size
  | 'o' => (bits + 2) / 3
  | 'u' => (Decimal.digits (Nat.pow 2 bits - 1)).length
  | 'd' => (Decimal.digits (Nat.pow 2 (bits - 1))).length + 1
  | _ => 3

/-- The names of control characters. -/
def controlNames : List String :=
  ["nul", "soh", "stx", "etx", "eot", "enq", "ack", "bel", "bs", "ht", "nl", "vt", "ff", "cr", "so",
    "si", "dle", "dc1", "dc2", "dc3", "dc4", "nak", "syn", "etb", "can", "em", "sub", "esc", "fs",
    "gs", "rs", "us", "sp"]

/-- A byte as a character or an escape. -/
def shownChar (b : UInt8) : String :=
  let escapes : List (UInt8 × String) :=
    [(0, "\\0"), (7, "\\a"), (8, "\\b"), (9, "\\t"), (10, "\\n"), (11, "\\v"), (12, "\\f"),
      (13, "\\r")]
  match escapes.find? fun e => e.1 == b with
  | some (_, text) => text
  | none =>
    if 32 ≤ b && b ≤ 126 then String.singleton (Char.ofNat b.toNat)
    else
      let digits := Nat.toDigits 8 b.toNat
      String.ofList (List.replicate (3 - digits.length) '0' ++ digits)

/-- The number that bytes are, the lowest one in front. -/
def numberOfBytes (bytes : List UInt8) : Nat :=
  bytes.foldr (fun b n => 256 * n + b.toNat) 0

/-- A group of bytes as it is shown. -/
def DumpType.shown (t : DumpType) (bytes : List UInt8) : String :=
  let n := numberOfBytes bytes
  let inBase (base width : Nat) : String :=
    let digits := Nat.toDigits base n
    String.ofList (List.replicate (width - digits.length) '0' ++ digits)
  match t.letter with
  | 'x' => inBase 16 (2 * t.size)
  | 'o' => inBase 8 ((8 * t.size + 2) / 3)
  | 'u' => Decimal.natText n
  | 'd' =>
    let limit := Nat.pow 2 (8 * t.size - 1)
    Decimal.intText (if limit ≤ n then (n : Int) - (2 * limit : Nat) else n)
  | 'c' => shownChar (bytes.headD 0)
  | _ =>
    let low := n % 128
    if low = 127 then "del"
    else controlNames[low]?.getD (String.singleton (Char.ofNat low))

/-- The groups of a row, each filled up to a width, which several types share. -/
def DumpType.row (t : DumpType) (unit : Nat) : Nat → List UInt8 → String
  | 0, _ => ""
  | fuel + 1, bytes =>
    if bytes.isEmpty then ""
    else
      let text := t.shown (bytes.take t.size)
      String.ofList (List.replicate (unit * t.size - text.length) ' ') ++ text
        ++ t.row unit fuel (bytes.drop t.size)

/-- The types that an argument names. -/
def dumpTypes : Nat → List Char → Option (List DumpType)
  | 0, _ => none
  | _, [] => some []
  | fuel + 1, c :: cs =>
    if c = 'a' || c = 'c' then
      let hasText := cs.head? = some 'z'
      (dumpTypes fuel (if hasText then cs.tail else cs)).map (⟨c, 1, hasText⟩ :: ·)
    else if ['d', 'o', 'u', 'x'].contains c then
      let digits := cs.takeWhile Char.isDigit
      let rest := cs.drop digits.length
      let (size, rest) : Nat × List Char := match digits, rest with
        | [], 'C' :: rest => (1, rest)
        | [], 'S' :: rest => (2, rest)
        | [], 'I' :: rest => (4, rest)
        | [], 'L' :: rest => (8, rest)
        | [], rest => (4, rest)
        | ds, rest => (Decimal.natOfDigits ds, rest)
      if size ∉ [1, 2, 4, 8] then none
      else
        let hasText := rest.head? = some 'z'
        (dumpTypes fuel (if hasText then rest.tail else rest)).map (⟨c, size, hasText⟩ :: ·)
    else none

/-- The address of a row. -/
def addressText (base : Char) (n : Nat) : String :=
  let filled (width : Nat) (digits : List Char) : String :=
    String.ofList (List.replicate (width - digits.length) '0' ++ digits)
  match base with
  | 'n' => ""
  | 'd' => filled 7 (Decimal.digits n)
  | 'x' => filled 6 (Nat.toDigits 16 n)
  | _ => filled 7 (Nat.toDigits 8 n)

/-- The rows of bytes in pieces of a width; those like the one before are left out if `short`. -/
def dumpRows (base : Char) (types : List DumpType) (width unit : Nat) (short : Bool) :
    Nat → Nat → Option (List UInt8) → Bool → List UInt8 → List String
  | 0, _, _, _, _ => []
  | fuel + 1, place, before, wasLeftOut, bytes =>
    if bytes.isEmpty then []
    else
      let here := bytes.take width
      let rest := bytes.drop width
      let isLast := rest.isEmpty && here.length < width
      if short && before = some here && !isLast then
        (if wasLeftOut then [] else ["*\n"])
          ++ dumpRows base types width unit short fuel (place + width) before true rest
      else
        let address := addressText base place
        let lines := types.zipIdx.map fun (t, i) =>
          let front := if i = 0 then address else String.ofList (List.replicate address.length ' ')
          let groups := t.row unit (width + 1) here
          let gap := unit * (width - here.length)
          let text := if t.hasText then
              let shown := here.map fun b => if 32 ≤ b && b ≤ 126 then Char.ofNat b.toNat else '.'
              String.ofList (List.replicate gap ' ') ++ "  >" ++ String.ofList shown ++ "<"
            else ""
          front ++ groups ++ text ++ "\n"
        lines ++ dumpRows base types width unit short fuel (place + width) (some here) false rest

/-- The types that options ask for. -/
def typesOf (o : Options) : Option (List DumpType) :=
  let named : List (Char × String) :=
    [('a', "a"), ('b', "o1"), ('c', "c"), ('d', "u2"), ('i', "d4"), ('l', "d8"), ('o', "o2"),
      ('s', "d2"), ('x', "x2")]
  let asked := o.given.flatMap fun g =>
    if g.1 = 't' then [g.2.getD ""] else ((named.find? fun n => n.1 == g.1).map Prod.snd).toList
  let asked := if asked.isEmpty then ["o2"] else asked
  (asked.mapM fun text => dumpTypes (text.length + 1) text.toList).map List.flatten

/-- Shows bytes as numbers and characters. -/
def odTool (tool : String) (arguments : List String) : Run Nat := do
  let table := OptionTable.ofText "A:j:N:S::t:vw::abcdfilosxz"
    [("address-radix", 'A'), ("skip-bytes", 'j'), ("read-bytes", 'N'), ("format", 't'),
      ("output-duplicates", 'v'), ("width", 'w')]
  withOptions tool 1 table arguments fun o => do
    match typesOf o with
    | none =>
      let text := (o.value? 't').getD ""
      failing 1 tool ("invalid type string " ++ quoted text)
    | some types =>
      let number (letter : Char) : Option Nat :=
        (o.value? letter).bind fun text =>
          match countOf lengthUnits text with
          | .count n => some n
          | _ => none
      let (inputs, status) ← readOperands (.plain tool) 1 o.operands
      let joined := joinInputs inputs
      let skipped := (number 'j').getD 0
      let bytes := joined.bytes.drop skipped
      let limit := number 'N'
      let bytes := (limit.map bytes.take).getD bytes
      let isEnough := joined.isWhole || limit.any fun n => n ≤ bytes.length
      unless isEnough do starve
      let width := if o.has 'w' then ((o.value? 'w').bind natOf?).getD 32 else 16
      let base := ((o.value? 'A').getD "o").toList.headD 'o'
      let unit := types.foldl (fun n t => max n ((t.width + t.size - 1) / t.size)) 0
      let rows :=
        dumpRows base types width unit (!o.has 'v') (bytes.length + 1) skipped none false bytes
      out (String.join rows)
      if isEnough && base ≠ 'n' then
        out (addressText base (skipped + bytes.length) ++ "\n")
      return status

/-! ## Bytes in an alphabet -/

/-- An alphabet for bytes: how many bits a character has, and how many characters belong
together. -/
structure ByteAlphabet where
  chars : Array Char
  bits : Nat
  together : Nat

/-- The alphabet of 64 characters. -/
def ByteAlphabet.large : ByteAlphabet :=
  ⟨"ABCDEFGHIJKLMNOPQRSTUVWXYZabcdefghijklmnopqrstuvwxyz0123456789+/".toList.toArray, 6, 4⟩

/-- The alphabet of 32 characters. -/
def ByteAlphabet.small : ByteAlphabet :=
  ⟨"ABCDEFGHIJKLMNOPQRSTUVWXYZ234567".toList.toArray, 5, 8⟩

/-- Bytes in an alphabet. -/
def ByteAlphabet.encode (a : ByteAlphabet) (bytes : List UInt8) : List Char :=
  let size := a.bits * a.together / 8
  let group (part : List UInt8) : List Char :=
    let value := part.foldl (fun n b => 256 * n + b.toNat) 0 * Nat.pow 256 (size - part.length)
    let count := (8 * part.length + a.bits - 1) / a.bits
    (List.range a.together).map fun i =>
      if i < count then
        let shift := a.bits * (a.together - 1 - i)
        (a.chars[value / Nat.pow 2 shift % Nat.pow 2 a.bits]?).getD '='
      else '='
  groups (bytes.length + 1) size bytes |>.flatMap group
where
  /-- Bytes in groups of a size. -/
  groups : Nat → Nat → List UInt8 → List (List UInt8)
    | 0, _, _ => []
    | fuel + 1, size, bytes =>
      if bytes.isEmpty then [] else bytes.take size :: groups fuel size (bytes.drop size)

/-- The bytes that characters of an alphabet write, and whether something else was met. -/
def ByteAlphabet.decode (a : ByteAlphabet) :
    Nat → List Char → List UInt8 × Bool
  | 0, _ => ([], true)
  | _, [] => ([], true)
  | fuel + 1, cs =>
    let part := cs.take a.together
    let digits := part.takeWhile a.chars.contains
    let fill := part.drop digits.length
    let value := digits.foldl (fun n c => Nat.pow 2 a.bits * n + ((a.chars.idxOf? c).getD 0)) 0
    let count := digits.length * a.bits / 8
    let value := value / Nat.pow 2 (digits.length * a.bits - 8 * count)
    let bytes := (List.range count).map fun i =>
      (value / Nat.pow 256 (count - 1 - i) % 256).toUInt8
    if part.length = a.together && fill.all (· = '=') then
      let (more, isValid) := a.decode fuel (cs.drop a.together)
      (bytes ++ more, isValid)
    else (bytes, false)

/-- Text in lines of a width; a width of zero stands for a single open line. -/
def wrapped (width : Nat) : Nat → List Char → List Char
  | 0, cs => cs
  | fuel + 1, cs =>
    if cs.isEmpty || width = 0 then cs
    else cs.take width ++ '\n' :: wrapped width fuel (cs.drop width)

/-- Writes bytes in an alphabet, or back. -/
def baseTool (alphabet : ByteAlphabet) (tool : String) (arguments : List String) : Run Nat := do
  let table := OptionTable.ofText "diw:" [("decode", 'd'), ("ignore-garbage", 'i'), ("wrap", 'w')]
  withOptions tool 1 table arguments fun o => do
    if let some extra := o.operands[1]? then
      complainOfUsage tool ("extra operand " ++ quoted extra)
      return 1
    let text := (o.value? 'w').getD "76"
    match natOf? text with
    | none => failing 1 tool ("invalid wrap size: " ++ quoted text)
    | some width =>
      let faults : InputFaults :=
        { InputFaults.plain tool with reading := fun _ why => tool ++ ": read error: " ++ why }
      match ← readOperand faults 0 (o.operands.headD "-") with
      | none => return 1
      | some input =>
        unless ← haveAll [input] do return 1
        if o.has 'd' then
          let cs := (charsOf input.bytes).filter (· ≠ '\n')
          let cs :=
            if o.has 'i' then cs.filter fun c => alphabet.chars.contains c || c = '=' else cs
          let (bytes, isValid) := alphabet.decode (cs.length + 1) cs
          writeBytes 1 bytes
          if isValid then return 0 else failing 1 tool "invalid input"
        else
          let cs := alphabet.encode input.bytes
          outChars (wrapped width (cs.length + 1) cs)
          return 0

/-! ## Check sums -/

/-- One step of the check sum: a byte is shifted in. -/
def sumStep (crc : UInt32) (b : UInt8) : UInt32 :=
  (List.range 8).foldl
    (fun crc i =>
      let bit := (b.toUInt32 >>> (7 - i).toUInt32) &&& 1
      let top := (crc >>> 31) ^^^ bit
      if top = 1 then (crc <<< 1) ^^^ 0x04C11DB7 else crc <<< 1)
    crc

/-- The check sum of some bytes, with their number behind them. -/
def checkSum (bytes : List UInt8) : UInt32 :=
  let sizeBytes (n : Nat) : List UInt8 :=
    ((List.range 8).map fun i => (n / Nat.pow 256 i % 256).toUInt8).take
      ((Nat.log2 n + 8) / 8 * (if n = 0 then 0 else 1))
  ~~~ ((bytes ++ sizeBytes bytes.length).foldl sumStep 0)

/-- Writes check sums and sizes of inputs. -/
def cksumTool (tool : String) (arguments : List String) : Run Nat := do
  withOptions tool 1 (OptionTable.ofText "a:" [("algorithm", 'a')]) arguments fun o => do
    let (inputs, status) ← readOperands (.plain tool) 1 o.operands
    if ← haveAll inputs then
      for input in inputs do
        out (Decimal.natText (checkSum input.bytes).toNat ++ " "
          ++ Decimal.natText input.bytes.length
          ++ (if o.operands.isEmpty then "" else " " ++ input.name) ++ "\n")
    return status

/-! ## Blocks -/

/-- Copies blocks of bytes: `if` and `of` name files, `bs` is the size of a block, `count` the
number of blocks, `skip` how many are passed over in the input and `seek` in the output. -/
def ddTool (tool : String) (arguments : List String) : Run Nat := do
  let value? (name : String) : Option String :=
    (arguments.reverse.find? fun a => a.startsWith (name ++ "=")).map fun a =>
      String.ofList (a.toList.drop (name.length + 1))
  match arguments.find? fun a => !a.contains '=' with
  | some a =>
    complainOfUsage tool ("unrecognized operand " ++ quoted a)
    return 1
  | none =>
    let number (name : String) (usual : Nat) : Nat :=
      match (value? name).map (countOf (lengthUnits ++ "cw")) with
      | some (.count n) => n
      | _ => usual
    let size := max 1 (number "bs" (number "ibs" 512))
    let limit := (value? "count").map fun _ => number "count" 0 * size
    let skipped := number "skip" 0 * size
    let wanted := skipped + limit.getD 0
    let found ← match value? "if" with
      | some path => readPath path wanted
      | none =>
        match (← get).available 0 wanted with
        | .ok a =>
          passOver 0 (if limit.isSome then min wanted a.bytes.length else a.bytes.length)
          pure (.ok a)
        | .error fault => pure (.error fault)
    match found with
    | .error fault =>
      failing 1 tool ("failed to open " ++ shellQuoted ((value? "if").getD "-") ++ ": " ++
        fault.text)
    | .ok a =>
      let bytes := a.bytes.drop skipped
      let bytes := (limit.map bytes.take).getD bytes
      let isEnough := a.isWhole || limit.any fun n => n ≤ bytes.length
      unless isEnough do starve
      let before := (← get).descriptors
      if let some path := value? "of" then
        let keeps := ((value? "conv").getD "").startsWith "notrunc"
        match ← openForWriting path (if keeps then .update else .create) with
        | .ok channel => leadTo 1 channel
        | .error fault =>
          return ← failing 1 tool ("failed to open " ++ shellQuoted path ++ ": " ++ fault.text)
      writeBytes 1 bytes
      modify fun s => { s with descriptors := before }
      unless value? "status" = some "none" do
        let partly := if bytes.length % size = 0 then "0" else "1"
        let blocks := Decimal.natText (bytes.length / size) ++ "+" ++ partly
        complain (blocks ++ " records in")
        complain (blocks ++ " records out")
      return 0

/-- The ending of the file for a piece. -/
def pieceEnding (isNumber : Bool) (width n : Nat) : String :=
  let base := if isNumber then 10 else 26
  let letter (d : Nat) : Char := Char.ofNat ((if isNumber then 48 else 97) + d)
  String.ofList ((List.range width).map fun i =>
    letter (n / Nat.pow base (width - 1 - i) % base))

/-- Writes pieces of an input in files of their own. -/
def splitTool (tool : String) (arguments : List String) : Run Nat := do
  let table := OptionTable.ofText "a:b:C:dl:n:x"
    [("suffix-length", 'a'), ("bytes", 'b'), ("numeric-suffixes", 'd'), ("lines", 'l'),
      ("number", 'n')]
  withOptions tool 1 table arguments fun o => do
    let faults : InputFaults :=
      { InputFaults.spoken tool with
        reading := fun path why => tool ++ ": " ++ shownName path ++ ": " ++ why }
    match ← readOperand faults 0 (o.operands.headD "-") with
    | none => return 1
    | some input =>
      unless ← haveAll [input] do return 1
      let width := ((o.value? 'a').bind natOf?).getD 2
      let front := o.operands[1]?.getD "x"
      let pieces : List (List UInt8) := match o.value? 'b' with
        | some text =>
          match countOf lengthUnits text with
          | .count n => ByteAlphabet.encode.groups (input.bytes.length + 1) (max 1 n) input.bytes
          | _ => []
        | none =>
          let count := max 1 (((o.value? 'l').bind natOf?).getD 1000)
          lineGroups (input.lines.length + 1) count input.lines
      for (piece, i) in pieces.zipIdx do
        let path := front ++ pieceEnding (o.has 'd') width i
        if let some fault ← tryFiles fun f => f.write (toText path) ⟨piece.toArray⟩ then
          return ← failing 1 tool (shownName path ++ ": " ++ fault.text)
      return 0
where
  /-- The bytes of lines, so many of them together. -/
  lineGroups : Nat → Nat → List Line → List (List UInt8)
    | 0, _, _ => []
    | fuel + 1, count, lines =>
      if lines.isEmpty then []
      else
        let text := (lines.take count).flatMap fun line =>
          line.text ++ if line.isClosed then ['\n'] else []
        bytesOf text :: lineGroups fuel count (lines.drop count)

end LayerNet.Shell
