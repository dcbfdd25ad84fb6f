import LayerNet.Shell.CharSet
import LayerNet.Shell.Escapes
import LayerNet.Shell.Tools.Input
import LayerNet.Shell.Tools.Options

/-!
# The tool for characters

`tr` replaces, deletes and squeezes characters, which are listed in sets: single characters, ranges,
classes, and characters that are repeated.

Main definitions:

- `ListedSet.read`: the characters that a set lists.
- `ListedSet.mapping`: which characters take the place of which.
- `trTool`: the tool.
-/

namespace LayerNet.Shell

/-- A member of a set: characters in order, of which the last may be repeated; a class; or a
character that is repeated, without end if no number is given. -/
inductive ListedItem where
  | char (c : Char)
  | range (low high : Char)
  | cls (c : CharClass)
  | equivalent (c : Char)
  | repeated (c : Char) (count : Option Nat)
deriving DecidableEq, Repr

/-- A set as it is listed. -/
abbrev ListedSet := List ListedItem

/-- The characters of a member, `rest` of one that is repeated without end. -/
def ListedItem.chars (rest : Nat) : ListedItem → List Char
  | char c | equivalent c => [c]
  | range low high =>
    (List.range (high.toNat + 1 - low.toNat)).map fun i => Char.ofNat (low.toNat + i)
  | cls c => c.members
  | repeated c count => List.replicate (count.getD rest) c

/-- Whether a member is one of the classes that differ in case. -/
def ListedItem.isCaseClass : ListedItem → Bool
  | cls c => c = .upper || c = .lower
  | _ => false

namespace ListedSet

/-! ## Reading -/

/-- A character that is read, and whether a backslash stood in front of it. -/
abbrev Mark := Char × Bool

/-- Why a set cannot be read. -/
abbrev Fault := String

/-- The characters of a text with its escapes replaced, and what is to be said about them. -/
def marksOf : Nat → List Char → List Mark × List String
  | 0, _ => ([], [])
  | fuel + 1, cs =>
    let put (marks : List Mark) (warnings : List String) (rest : List Char) :
        List Mark × List String :=
      let (more, warned) := marksOf fuel rest
      (marks ++ more, warnings ++ warned)
    match cs with
    | [] => ([], [])
    | ['\\'] => put [('\\', false)]
      ["warning: an unescaped backslash at end of string is not portable"] []
    | '\\' :: c :: rest =>
      if Escape.isOctal c then
        let digits := ((c :: rest).take 3).takeWhile Escape.isOctal
        let value := digits.foldl (fun n d => 8 * n + (d.toNat - 48)) 0
        if value < 256 then put [(Char.ofNat value, true)] [] ((c :: rest).drop digits.length)
        else
          let shown := String.ofList digits
          let first := String.ofList ('0' :: digits.take 2)
          put [(Char.ofNat (value / 8), true)]
            ["warning: the ambiguous octal escape \\" ++ shown
              ++ " is being\n\tinterpreted as the 2-byte sequence \\" ++ first ++ ", "
              ++ String.ofList (digits.drop 2)]
            ((c :: rest).drop 2)
      else
        let value := if c = 'e' then c else (Escape.ofLetter? c).getD c
        put [(value, true)] [] rest
    | c :: rest => put [(c, false)] [] rest

/-- The characters up to a sign followed by a closing bracket, and those behind the two. -/
def upToClosing (sign : Char) (inner : List Char) : List Mark → Option (List Char × List Mark)
  | (c, p) :: (d, q) :: rest =>
    if c = sign && d = ']' && !p && !q then some (inner.reverse, rest)
    else upToClosing sign (c :: inner) ((d, q) :: rest)
  | _ => none

/-- Whether a star, digits and a closing bracket stand in front. -/
def isStarred (marks : List Mark) : Bool :=
  match marks with
  | ('*', false) :: rest => (rest.dropWhile fun m => m.1.isDigit && !m.2).head? = some (']', false)
  | _ => false

/-- The member that stands in front in brackets, with what follows it; none if the bracket stands
for itself. -/
def bracketed (marks : List Mark) : Except Fault (Option (ListedItem × List Mark)) :=
  let repeated : Except Fault (Option (ListedItem × List Mark)) :=
    match marks with
    | _ :: (c, _) :: ('*', false) :: rest =>
      let inner := rest.takeWhile fun m => !m.2 && m.1 ≠ ']'
      match rest.drop inner.length with
      | (']', false) :: rest =>
        let digits := inner.map Prod.fst
        let base := if digits.head? = some '0' then 8 else 10
        if digits.all fun d => d.isDigit && (base = 10 || Escape.isOctal d) then
          let n := digits.foldl (fun n d => base * n + (d.toNat - 48)) 0
          .ok (some (.repeated c (if n = 0 then none else some n), rest))
        else .error ("invalid repeat count " ++ quoted (String.ofList digits)
          ++ " in [c*n] construct")
      | _ => .ok none
    | _ => .ok none
  match marks with
  | _ :: (':', false) :: rest =>
    match upToClosing ':' [] rest with
    | none => repeated
    | some ([], _) => .error "missing character class name '[::]'"
    | some (name, behind) =>
      match CharClass.ofName? (String.ofList name) with
      | some c => .ok (some (.cls c, behind))
      | none =>
        if isStarred rest then repeated
        else .error ("invalid character class " ++ quoted (String.ofList name))
  | _ :: ('=', false) :: rest =>
    match upToClosing '=' [] rest with
    | none => repeated
    | some ([], _) => .error "missing equivalence class character '[==]'"
    | some ([c], behind) => .ok (some (.equivalent c, behind))
    | some (name, _) =>
      if isStarred rest then repeated
      else .error (String.ofList name ++ ": equivalence class operand must be a single character")
  | _ => repeated

/-- Reads the members of a set. -/
def readItems : Nat → List Mark → Except Fault ListedSet
  | 0, _ => .ok []
  | fuel + 1, marks =>
    let plain : Except Fault ListedSet :=
      match marks with
      | (low, _) :: ('-', false) :: (high, _) :: rest =>
        if high < low then
          let shown := String.ofList [low, '-', high]
          .error ("range-endpoints of " ++ quoted shown
            ++ " are in reverse collating sequence order")
        else do return .range low high :: (← readItems fuel rest)
      | (c, _) :: rest => do return .char c :: (← readItems fuel rest)
      | [] => .ok []
    match marks with
    | ('[', false) :: _ :: _ :: _ => do
      match ← bracketed marks with
      | some (item, rest) => return item :: (← readItems fuel rest)
      | none => plain
    | _ => plain

/-- The set that a text lists, or what is wrong with it, and what is to be said about it. -/
def read (text : String) : Except Fault ListedSet × List String :=
  let (marks, warnings) := marksOf (text.length + 1) text.toList
  (readItems (marks.length + 1) marks, warnings)

/-! ## Members -/

/-- The characters of a set, in which what is repeated without end comes `rest` times. -/
def chars (set : ListedSet) (rest : Nat) : List Char :=
  set.flatMap (ListedItem.chars rest)

/-- Whether a member is repeated without end. -/
def isOpen : ListedItem → Bool
  | .repeated _ none => true
  | _ => false

/-- How many characters a set has, with the places at which classes that differ in case begin. -/
def caseStarts (rest : Nat) (place : Nat) : ListedSet → List Nat
  | [] => []
  | item :: items =>
    (if item.isCaseClass then [place] else [])
      ++ caseStarts rest (place + (item.chars rest).length) items

/-- All characters that are not in a list. -/
def others (cs : List Char) : List Char :=
  let isIn := cs.foldl (fun (a : Array Bool) c => a.set! c.toNat true) (Array.replicate 256 false)
  ((List.range 256).map Char.ofNat).filter fun c => !(isIn[c.toNat]?.getD false)

/-- The characters of the first set, or all others. -/
def wanted (set : ListedSet) (complement : Bool) : List Char :=
  if complement then others (set.chars 0) else set.chars 0

/-- Which characters take the place of which, those that count in the end behind. -/
def mapping (first second : ListedSet) (complement truncate : Bool) :
    Except Fault (List (Char × Char)) := do
  let isClass (item : ListedItem) : Bool :=
    match item with
    | .cls _ => true
    | _ => false
  if first.any isOpen then throw "the [c*] repeat construct may not appear in string1"
  let source := first.wanted complement
  if 1 < second.countP isOpen then
    throw "only one [c*] repeat construct may appear in string2"
  let rest := source.length - (second.chars 0).length
  let into := second.chars rest
  if second.any fun item => match item with
      | .equivalent _ => true
      | _ => false
  then throw "[=c=] expressions may not appear in string2 when translating"
  if second.any fun item => isClass item && !item.isCaseClass then
    throw ("when translating, the only character classes that may appear in\n"
      ++ "string2 are 'upper' and 'lower'")
  unless complement do
    let starts := first.caseStarts 0 0
    let misplaced := (second.caseStarts rest 0).filter fun place =>
      place ≤ source.length && !starts.contains place
    unless misplaced.isEmpty do throw "misaligned [:upper:] and/or [:lower:] construct"
  let extended ← if source.length ≤ into.length || truncate then pure into
    else
      match into.getLast?, second.getLast? with
      | none, _ => throw "when not truncating set1, string2 must be non-empty"
      | some _, some (.cls _) =>
        throw ("when translating with string1 longer than string2,\n"
          ++ "the latter string must not end with a character class")
      | some last, _ => pure (into ++ List.replicate (source.length - into.length) last)
  if complement && first.any isClass then
    unless extended.length = source.length && extended.all fun c => extended.head? = some c do
      throw ("when translating with complemented character classes,\n"
        ++ "string2 must map all characters in the domain to one")
  return source.zip extended

end ListedSet

/-- Characters with runs of the same member of a set cut down to one. -/
def squeezed (isMember : Array Bool) (before : Option Char) : List Char → List Char
  | [] => []
  | c :: cs =>
    if before = some c && isMember[c.toNat]?.getD false then squeezed isMember before cs
    else c :: squeezed isMember (some c) cs

/-- For each character whether it is in a list. -/
def memberTable (cs : List Char) : Array Bool :=
  cs.foldl (fun a c => a.set! c.toNat true) (Array.replicate 256 false)

/-- What `tr` does with characters, or what is wrong with its sets. -/
def characterChange (o : Options) (first second : ListedSet) :
    Except String (List Char → List Char) := do
  let complement := o.hasAny ['c', 'C']
  let hasSecond := 1 < o.operands.length
  let inFirst := memberTable (first.wanted complement)
  let delete (cs : List Char) : List Char := cs.filter fun c => !(inFirst[c.toNat]?.getD false)
  let squeeze (cs : List Char) : List Char :=
    squeezed (if hasSecond then memberTable (second.chars 0) else inFirst) none cs
  if hasSecond && !o.has 'd' then
    let pairs ← ListedSet.mapping first second complement (o.has 't')
    let identity := (Array.range 256).map Char.ofNat
    let target := pairs.foldl (fun (a : Array Char) p => a.set! p.1.toNat p.2) identity
    let replace (cs : List Char) : List Char := cs.map fun c => target[c.toNat]?.getD c
    if o.has 's' then return fun cs => squeeze (replace cs) else return replace
  else
    if first.any ListedSet.isOpen then
      throw "the [c*] repeat construct may not appear in string1"
    if second.any ListedSet.isOpen then
      throw "the [c*] construct may appear in string2 only when translating"
    if o.has 'd' then
      if o.has 's' then return fun cs => squeeze (delete cs) else return delete
    else return squeeze

/-- Whether there are as many sets as the options want; else says what is wrong. -/
def haveSets (tool : String) (o : Options) : Run Bool := do
  let (deletes, squeezes) := (o.has 'd', o.has 's')
  let least := if deletes = squeezes then 2 else 1
  let most := if deletes && !squeezes then 1 else 2
  match o.operands, o.operands.getLast? with
  | [], _ | _, none =>
    complainOfUsage tool "missing operand"
    return false
  | operands, some last =>
    if operands.length < least then
      complain (tool ++ ": missing operand after " ++ quoted last)
      complain (if squeezes
        then "Two strings must be given when both deleting and squeezing repeats."
        else "Two strings must be given when translating.")
      complainOfUsage tool ""
      return false
    else if most < operands.length then
      complain (tool ++ ": extra operand " ++ quoted (operands[most]?.getD ""))
      if operands.length = 2 then
        complain "Only one string may be given when deleting without squeezing repeats."
      complainOfUsage tool ""
      return false
    else return true

/-- Replaces, deletes and squeezes characters. -/
def trTool (tool : String) (arguments : List String) : Run Nat := do
  let table : OptionTable :=
    { OptionTable.ofText "cCdst"
        [("complement", 'c'), ("delete", 'd'), ("squeeze-repeats", 's'),
          ("truncate-set1", 't')] with
      stopsAtOperand := true }
  withOptions tool 1 table arguments fun o => do
    unless ← haveSets tool o do return 1
    let sets := o.operands.map ListedSet.read
    for (set, warnings) in sets do
      for warning in warnings do complain (tool ++ ": " ++ warning)
      if let .error why := set then return ← failing 1 tool why
    let set (i : Nat) : ListedSet :=
      match (sets[i]?).map Prod.fst with
      | some (.ok set) => set
      | _ => []
    match characterChange o (set 0) (set 1) with
    | .error why => failing 1 tool why
    | .ok change =>
      match ← readStandard (← endlessSize) with
      | .error fault => failing 1 tool ("read error: " ++ fault.text)
      | .ok a =>
        outChars (change (charsOf a.bytes))
        unless a.isWhole do starve
        return 0

end LayerNet.Shell
