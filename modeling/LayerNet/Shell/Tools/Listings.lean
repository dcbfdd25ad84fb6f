import LayerNet.Shell.Pattern
import LayerNet.Shell.Ending
import LayerNet.Shell.Tools.Files

/-!
# Tools that list files

Main definitions:

- `lsTool`: the names in directories.
- `statTool`: what is known of a file.
- `findTool`: files that pass tests.
-/

namespace LayerNet.Shell

/-! ## Names in directories -/

/-- The names of the entries of a directory that are listed, in order. -/
def listedEntries (o : Options) (node : Node) : List (String × Node) :=
  let dots : List (String × Node) :=
    if o.has 'a' && o.last? ['a', 'A'] = some 'a' then [(".", node), ("..", node)] else []
  let visible := node.entries.filter fun e => o.hasAny ['a', 'A'] || !e.1.startsWith "."
  let named := visible.map fun e => (fromText e.1, e.2)
  let ordered := named.mergeSort fun a b => decide (a.1 ≤ b.1)
  let size (n : Node) : Nat :=
    match n with
    | .file content _ => content.size
    | .directory _ => 4096
    | .device _ => 0
  let all := dots ++ ordered
  let all := if o.has 'S' then all.mergeSort fun a b => decide (size b.2 ≤ size a.2) else all
  if o.has 'r' then all.reverse else all

/-- A name with the sign that tells what it is. -/
def markedName (o : Options) (name : String) (node : Node) : String :=
  let mark := match node with
    | .directory _ => if o.hasAny ['F', 'p'] then "/" else ""
    | .file _ true => if o.has 'F' then "*" else ""
    | _ => ""
  let shown := if o.has 'Q' then "\"" ++ name ++ "\"" else name
  shown ++ mark

/-- Names as they are written: in lines, or with commas between them. -/
def namesText (o : Options) (entries : List (String × Node)) : String :=
  let names := entries.map fun e => markedName o e.1 e.2
  if names.isEmpty then ""
  else if o.has 'm' then ", ".intercalate names ++ "\n"
  else String.join (names.map (· ++ "\n"))

/-- The directories that are listed, with their paths: those below a directory behind it if that is
wanted. -/
def listedDirectories (o : Options) (path : String) : Nat → Node → List (String × Node)
  | 0, node => [(path, node)]
  | fuel + 1, node =>
    let inner := if !o.has 'R' then []
      else (listedEntries o node).flatMap fun e =>
        if e.2.isDirectory && e.1 ≠ "." && e.1 ≠ ".." then
          listedDirectories o (below path e.1) fuel e.2
        else []
    (path, node) :: inner

/-- Lists files and the names in directories. -/
def lsTool (tool : String) (arguments : List String) : Run Nat := do
  let table := OptionTable.ofText "1aAbBcCdDfFgGhHiI:klLmnNopqQrRsStT:uUvw:xXZ"
    [("all", 'a'), ("almost-all", 'A'), ("directory", 'd'), ("classify", 'F'),
      ("reverse", 'r'), ("recursive", 'R'), ("quote-name", 'Q'), ("color", 'C')]
  let arguments := arguments.filter fun a => !a.startsWith "--color"
  withOptions tool 2 table arguments fun o => do
    let operands := if o.operands.isEmpty then ["."] else o.operands
    let files := (← get).files
    let mut status := 0
    let mut plain := #[]
    let mut directories := #[]
    for path in operands do
      match files.locate (toText path) with
      | .error fault =>
        complain (tool ++ ": cannot access " ++ shellQuoted path ++ ": " ++ fault.text)
        status := 2
      | .ok (_, node) =>
        if node.isDirectory && !o.has 'd' then directories := directories.push (path, node)
        else plain := plain.push (path, node)
    let ordered (entries : List (String × Node)) : List (String × Node) :=
      let entries := if o.hasAny ['f', 'U'] then entries
        else entries.mergeSort fun a b => decide (a.1 ≤ b.1)
      if o.has 'r' then entries.reverse else entries
    out (namesText o (ordered plain.toList))
    let mut between := if plain.isEmpty then "" else "\n"
    let listed := (ordered directories.toList).flatMap fun d =>
      listedDirectories o d.1 200 d.2
    for (path, node) in listed do
      if 1 < operands.length || o.has 'R' then
        out (between ++ path ++ ":\n")
      between := "\n"
      out (namesText o (listedEntries o node))
    return status

/-! ## What is known of a file -/

/-- The kind of a node in words. -/
def kindOf : Node → String
  | .file content _ => if content.size = 0 then "regular empty file" else "regular file"
  | .directory _ => "directory"
  | .device _ => "character special file"

/-- How large a node is. -/
def sizeOfNode : Node → Nat
  | .file content _ => content.size
  | .directory _ => 4096
  | .device _ => 0

/-- What is known of a file in a format. -/
def statText (path : String) (node : Node) (escapes : Bool) : List Char → List Char
  | [] => []
  | '%' :: c :: cs =>
    let shown := match c with
      | 'n' => path
      | 'N' => shellQuoted path
      | 's' => Decimal.natText (sizeOfNode node)
      | 'F' => kindOf node
      | 'a' => String.ofList (Nat.toDigits 8 (modeOf node))
      | 'u' | 'g' => "0"
      | 'U' | 'G' => "root"
      | 'h' => "1"
      | '%' => "%"
      | c => String.ofList ['%', c]
    shown.toList ++ statText path node escapes cs
  | '\\' :: c :: cs =>
    match if escapes then Escape.ofLetter? c else none with
    | some e => e :: statText path node escapes cs
    | none => '\\' :: c :: statText path node escapes cs
  | c :: cs => c :: statText path node escapes cs

/-- Writes what is known of files. -/
def statTool (tool : String) (arguments : List String) : Run Nat := do
  let table := OptionTable.ofText "c:P:fLt"
    [("format", 'c'), ("printf", 'P'), ("file-system", 'f'), ("dereference", 'L'), ("terse", 't')]
  withOptions tool 1 table arguments fun o => do
    needingOperand tool "missing operand" o.operands do
      forOperands o.operands fun path => do
        match (← get).files.locate (toText path) with
        | .error fault => cannot tool "cannot statx" path fault
        | .ok (_, node) =>
          match o.value? 'c', o.value? 'P' with
          | some format, _ => outChars (statText path node false format.toList ++ ['\n'])
          | none, some format => outChars (statText path node true format.toList)
          | none, none =>
            out ("  File: " ++ path ++ "\n  Size: " ++ Decimal.natText (sizeOfNode node) ++ "\n")
          return 0

/-! ## Files that pass tests -/

/-- How a tool starts another program: from its name and arguments to its status. -/
abbrev Starter := String → List String → Step Nat

/-- A test of a file, or something that is done with it. -/
inductive FindTest where
  | always (holds : Bool)
  | named (pattern : NamePattern) (ignoreCase : Bool)
  | path (pattern : NamePattern)
  | kind (letters : List Char)
  | isEmpty
  | size (sign : Ordering) (count unit : Nat)
  | mode (bits : Nat)
  | print (mark : Char)
  | format (text : String)
  | execute (words : List String)
  | collect (words : List String)
  | delete
  | prune
  | quit
  | negated (test : FindTest)
  | both (a b : FindTest)
  | either (a b : FindTest)

/-- Whether something is done with a file, other than tests. -/
def FindTest.acts : FindTest → Bool
  | print _ | format _ | execute _ | collect _ | delete => true
  | negated t => t.acts
  | both a b | either a b => a.acts || b.acts
  | _ => false

/-- A search: its test, and how deep it goes. -/
structure FindPlan where
  most : Option Nat := none
  least : Nat := 0
  depthFirst : Bool := false

/-- The result of reading tests: the test, the plan and what follows. -/
abbrev FindReading := Except String (FindTest × FindPlan × List String)

/-- A number with a sign that asks for more or less, and a unit. -/
def sizeTest? (text : String) : Option FindTest :=
  let (sign, rest) : Ordering × List Char := match text.toList with
    | '+' :: rest => (.gt, rest)
    | '-' :: rest => (.lt, rest)
    | rest => (.eq, rest)
  let digits := rest.takeWhile Char.isDigit
  let unit? : Option Nat := match rest.drop digits.length with
    | [] | ['b'] => some 512
    | ['c'] => some 1
    | ['w'] => some 2
    | ['k'] => some 1024
    | ['M'] => some 1048576
    | ['G'] => some 1073741824
    | _ => none
  if digits.isEmpty then none else unit?.map (FindTest.size sign (Decimal.natOfDigits digits))

/-- The words of a program up to the sign that ends them, and whether it is started once for many
files. -/
def programWords (words : List String) : List String → Option (List String × Bool × List String)
  | [] => none
  | ";" :: rest => some (words.reverse, false, rest)
  | "+" :: rest =>
    if words.head? = some "\x7b\x7d" then some (words.reverse, true, rest)
    else programWords ("+" :: words) rest
  | word :: rest => programWords (word :: words) rest

/-- Reads a test that has an argument. -/
def readArgumentTest (p : FindPlan) (name value : String) (rest : List String) : FindReading :=
  let ok (test : FindTest) : FindReading := .ok (test, p, rest)
  match name with
  | "-name" => ok (.named (.ofText value.toList) false)
  | "-iname" => ok (.named (.ofText (value.toList.map Char.toLower)) true)
  | "-path" | "-wholename" => ok (.path (.ofText value.toList))
  | "-type" =>
    match value.toList.find? fun c => !"bcdpfls,".toList.contains c with
    | some _ => .error ("Unknown argument to -type: " ++ value)
    | none => ok (.kind value.toList)
  | "-size" =>
    match sizeTest? value with
    | some test => ok test
    | none => .error ("Invalid argument \x60" ++ value ++ "' to -size")
  | "-maxdepth" | "-mindepth" =>
    match natOf? value with
    | none =>
      .error ("Expected a positive decimal integer argument to " ++ name ++ ", but got "
        ++ quoted value)
    | some n =>
      .ok (.always true, if name = "-maxdepth" then { p with most := some n }
        else { p with least := n }, rest)
  | "-perm" =>
    let bits := (value.toList.filter Char.isDigit).foldl (fun n c => 8 * n + (c.toNat - 48)) 0
    ok (.mode bits)
  | "-printf" => ok (.format value)
  | _ => .error ("unknown predicate \x60" ++ name ++ "'")

/-- The tests that have an argument. -/
def argumentTests : List String :=
  ["-name", "-iname", "-path", "-wholename", "-type", "-size", "-maxdepth", "-mindepth", "-perm",
    "-printf", "-newer", "-mtime", "-mmin", "-user", "-group", "-regex"]

mutual

/-- Reads tests of which one must hold. -/
def readEither (p : FindPlan) : Nat → List String → FindReading
  | 0, _ => .error "expression too deep"
  | fuel + 1, words => do
    let (a, p, rest) ← readBoth p fuel words
    match rest with
    | "-o" :: rest | "-or" :: rest =>
      let (b, p, rest) ← readEither p fuel rest
      return (.either a b, p, rest)
    | rest => return (a, p, rest)

/-- Reads tests that must all hold. -/
def readBoth (p : FindPlan) : Nat → List String → FindReading
  | 0, _ => .error "expression too deep"
  | fuel + 1, words => do
    let (a, p, rest) ← readTest p fuel words
    match rest with
    | [] | "-o" :: _ | "-or" :: _ | ")" :: _ => return (a, p, rest)
    | "-a" :: more | "-and" :: more =>
      let (b, p, rest) ← readBoth p fuel more
      return (.both a b, p, rest)
    | more =>
      let (b, p, rest) ← readBoth p fuel more
      return (.both a b, p, rest)

/-- Reads one test. -/
def readTest (p : FindPlan) : Nat → List String → FindReading
  | 0, _ => .error "expression too deep"
  | _, [] => .error "invalid expression"
  | fuel + 1, name :: rest =>
    let ok (test : FindTest) : FindReading := .ok (test, p, rest)
    match name with
    | "!" | "-not" => do
      let (test, p, rest) ← readTest p fuel rest
      return (.negated test, p, rest)
    | "(" => do
      let (test, p, rest) ← readEither p fuel rest
      match rest with
      | ")" :: rest => return (test, p, rest)
      | _ =>
          throw "invalid expression; I was expecting to find a ')' somewhere but did not see one."
    | "-print" => ok (.print '\n')
    | "-print0" => ok (.print '\x00')
    | "-true" | "-noleaf" | "-xdev" | "-mount" | "-follow" => ok (.always true)
    | "-false" => ok (.always false)
    | "-empty" => ok .isEmpty
    | "-executable" => ok (.mode 64)
    | "-readable" | "-writable" => ok (.always true)
    | "-prune" => ok .prune
    | "-quit" => ok .quit
    | "-depth" => .ok (.always true, { p with depthFirst := true }, rest)
    | "-delete" => .ok (.delete, { p with depthFirst := true }, rest)
    | "-exec" | "-ok" | "-execdir" =>
      match programWords [] rest with
      | some (words, isOnce, rest) =>
        .ok (if isOnce then .collect words else .execute words, p, rest)
      | none => .error ("missing argument to \x60" ++ name ++ "'")
    | name =>
      if argumentTests.contains name then
        match rest with
        | value :: rest => readArgumentTest p name value rest
        | [] => .error ("missing argument to \x60" ++ name ++ "'")
      else if name.startsWith "-" then .error ("unknown predicate \x60" ++ name ++ "'")
      else .error ("paths must precede expression: \x60" ++ name ++ "'")

end

/-- A file that is met: its path, what it is, where it is, and how deep. -/
structure FoundFile where
  path : String
  node : Node
  place : List String
  depth : Nat

/-- What a test comes to: whether it holds, whether what is below is left out, and whether the
search is over; files for programs that are started once are kept in reverse. -/
structure FindState where
  prunes : Bool := false
  isOver : Bool := false
  kept : List (List String × List String) := []
  status : Nat := 0

/-- The text of a file in a format. -/
def findFormat (f : FoundFile) : List Char → List Char
  | [] => []
  | '%' :: c :: cs =>
    let shown := match c with
      | 'p' => f.path
      | 'f' => lastPart f.path
      | 'h' => directoryPartOf f.path
      | 's' => Decimal.natText (sizeOfNode f.node)
      | 'd' => Decimal.natText f.depth
      | 'm' => String.ofList (Nat.toDigits 8 (modeOf f.node))
      | 'y' => if f.node.isDirectory then "d" else if f.node.isFile then "f" else "c"
      | '%' => "%"
      | c => String.ofList ['%', c]
    shown.toList ++ findFormat f cs
  | '\\' :: c :: cs =>
    if c = '0' then '\x00' :: findFormat f cs
    else (Escape.ofLetter? c).toList ++ findFormat f cs
  | c :: cs => c :: findFormat f cs
where
  /-- The path in front of the last part. -/
  directoryPartOf (path : String) : String :=
    match (path.toList.reverse.dropWhile (· ≠ '/')).drop 1 with
    | [] => "."
    | front => String.ofList front.reverse

/-- Carries out a test on a file. -/
def FindTest.carryOut (start : Starter) (f : FoundFile) (s : FindState) :
    FindTest → Step (Bool × FindState)
  | .always holds => return (holds, s)
  | .named pattern ignoreCase => do
    let name := (lastPart f.path).toList
    return (pattern.matchesAll (if ignoreCase then name.map Char.toLower else name), s)
  | .path pattern => return (pattern.matchesAll f.path.toList, s)
  | .kind letters => do
    let letter := if f.node.isDirectory then 'd' else if f.node.isFile then 'f' else 'c'
    return (letters.contains letter, s)
  | .isEmpty => return (match f.node with
      | .file content _ => content.size = 0
      | .directory entries => entries.isEmpty
      | .device _ => false, s)
  | .size sign count unit =>
    return (compare ((sizeOfNode f.node + unit - 1) / unit) count = sign, s)
  | .mode bits => return (modeOf f.node &&& bits = bits, s)
  | .print mark => do
    out (f.path ++ String.singleton mark)
    return (true, s)
  | .format text => do
    outChars (findFormat f text.toList)
    return (true, s)
  | .execute words => do
    let words := words.map (Text.replaceAll "\x7b\x7d" f.path)
    let status ← start (words.headD "") words.tail
    return (status = 0, s)
  | .collect words =>
    return (true, { s with kept := match s.kept.find? fun k => k.1 == words with
      | some _ => s.kept.map fun k => if k.1 == words then (words, f.path :: k.2) else k
      | none => s.kept ++ [(words, [f.path])] })
  | .delete => do
    let node? := (← get).files.node? f.place
    if node?.any fun n => !n.entries.isEmpty then
      complain ("find: cannot delete " ++ shellQuoted f.path ++ ": Directory not empty")
      return (false, { s with status := 1 })
    eraseAt f.place
    return (true, s)
  | .prune => return (true, { s with prunes := true })
  | .quit => return (true, { s with isOver := true })
  | .negated test => do
    let (holds, s) ← test.carryOut start f s
    return (!holds, s)
  | .both a b => do
    let (holds, s) ← a.carryOut start f s
    if holds then b.carryOut start f s else return (false, s)
  | .either a b => do
    let (holds, s) ← a.carryOut start f s
    if holds then return (true, s) else b.carryOut start f s

mutual

/-- Goes through a file and what is below it. -/
def findFrom (start : Starter) (test : FindTest) (p : FindPlan) (f : FoundFile) (s : FindState) :
    Nat → Step FindState
  | 0 => return s
  | fuel + 1 => do
    if s.isOver then return s
    let isDeep := p.most.all fun most => f.depth < most
    let here (s : FindState) : Step FindState := do
      if p.least ≤ f.depth then return (← test.carryOut start f { s with prunes := false }).2
      else return { s with prunes := false }
    let entries := (f.node.entries.map fun e => (fromText e.1, e)).mergeSort fun a b =>
      decide (a.1 ≤ b.1)
    let inner := entries.map fun e =>
      ({ path := below f.path e.1, node := e.2.2, place := f.place ++ [e.2.1]
         depth := f.depth + 1 } : FoundFile)
    if p.depthFirst then
      let s ← if isDeep then findAmong start test p inner s fuel else pure s
      here s
    else
      let s ← here s
      if isDeep && !s.prunes then findAmong start test p inner s fuel else return s

/-- Goes through files one after another. -/
def findAmong (start : Starter) (test : FindTest) (p : FindPlan) (files : List FoundFile)
    (s : FindState) : Nat → Step FindState
  | 0 => return s
  | fuel + 1 => do
    match files with
    | [] => return s
    | f :: rest =>
      let s ← findFrom start test p f s fuel
      findAmong start test p rest s fuel

end

/-- Starts the programs that are started once for all files; gives the status. -/
def startKept (start : Starter) (status : Nat) : List (List String × List String) → Step Nat
  | [] => return status
  | (words, paths) :: rest => do
    let words := words.dropLast ++ paths.reverse
    let found ← start (words.headD "") words.tail
    startKept start (if found = 0 then status else 1) rest

/-- Goes through what is below paths and does something with the files that pass tests. -/
def findTool (start : Starter) (tool : String) (arguments : List String) : Step Nat := do
  let arguments := arguments.dropWhile fun a => a = "-L" || a = "-H" || a = "-P"
  let isPath (a : String) : Bool := !a.startsWith "-" && a ≠ "!" && a ≠ "("
  let paths := arguments.takeWhile isPath
  let words := arguments.drop paths.length
  let read : FindReading :=
    if words.isEmpty then .ok (.always true, {}, []) else readEither {} (4 * words.length + 8) words
  match read with
  | .error why => failing 1 tool why
  | .ok (_, _, extra :: _) =>
    failing 1 tool ("paths must precede expression: \x60" ++ extra ++ "'")
  | .ok (test, plan, []) =>
    let test := if test.acts then test else .both test (.print '\n')
    let mut s : FindState := {}
    for path in if paths.isEmpty then ["."] else paths do
      match (← get).files.locate (toText path) with
      | .error fault =>
        complain (tool ++ ": " ++ shellQuoted path ++ ": " ++ fault.text)
        s := { s with status := 1 }
      | .ok (place, node) => s ← findFrom start test plan ⟨path, node, place, 0⟩ s 100000
    startKept start s.status s.kept

end LayerNet.Shell
