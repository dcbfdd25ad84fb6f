import LayerNet.Shell.Arithmetic
import LayerNet.Shell.Ending
import LayerNet.Shell.Fields
import LayerNet.Text.Search

/-!
# Expansion of words

A word is expanded into segments, which are then split into fields where fields are wanted, and
taken together where a single text is.

Main definitions:

- `State.parameter?`: the value of a parameter.
- `expandParts`: the segments of a word.
- `expandFields`, `expandText`, `expandPattern`: words as arguments, as texts and as patterns.
-/

namespace LayerNet.Shell

/-! ## Parameters -/

/-- The letters of all options in the order in which they are shown. -/
def shownLetters : List Char :=
  ['u', 'b', 'a', 'C', 'E', 'V', 'v', 'x', 's', 'n', 'm', 'i', 'I', 'f', 'e']

/-- The value of a parameter that is no list. -/
def State.plainParameter? (s : State) (name : String) : Option String :=
  match name with
  | "?" => some (Decimal.natText s.status)
  | "$" => some (Decimal.natText s.number)
  | "#" => some (Decimal.natText s.arguments.length)
  | "-" => some (String.ofList (shownLetters.filter s.options.contains))
  | "!" => s.lastBackground.map Decimal.natText
  | _ =>
    if (name.toList.head?.map Char.isDigit).getD false then
      match Decimal.natOfDigits name.toList with
      | 0 => some s.name
      | n => s.arguments[n - 1]?
    else s.valueOf? name

/-- What stands between the arguments where they are the value of a parameter: a gap where each of
them is a field of its own, else the first of the separators. -/
def State.betweenArguments (s : State) (name : String) (splits quoted : Bool) : List Item :=
  if splits && (name = "@" || !quoted) then [.gap]
  else (s.separators.head?.map fun c => Item.glyph ⟨c, quoted⟩).toList

/-- The value of a parameter. -/
def State.parameter? (s : State) (name : String) (splits quoted : Bool) : Option (List Item) :=
  if name = "@" || name = "*" then
    let arguments := s.arguments.map fun a => itemsOf quoted a.toList
    some ((s.betweenArguments name splits quoted).intercalate arguments)
  else (s.plainParameter? name).map fun value => itemsOf quoted value.toList

/-! ## Homes -/

/-- The home of a user, of the one who runs the shell if no name is given. -/
def State.home? (s : State) (user : String) : Option String :=
  if user.isEmpty then s.valueOf? "HOME"
  else if user = "root" then some "/root"
  else none

/-- Where homes may stand: nowhere, at the beginning of a text, or behind its colons as well. -/
inductive HomePlaces where
  | nowhere
  | front
  | colons
deriving DecidableEq, Repr

/-- The items of a text, in which homes take the place of `~` and a name where they may stand.  A
name that the end of the text cuts off is none if more follows. -/
def itemsWithHomes (home? : String → Option String) (colons isEnd : Bool) :
    Nat → Bool → List Char → List Item
  | 0, _, _ => []
  | _, _, [] => []
  | fuel + 1, begins, c :: cs =>
    let plain : List Item :=
      .glyph ⟨c, false⟩ :: itemsWithHomes home? colons isEnd fuel (colons && c = ':') cs
    if begins && c = '~' then
      let name := cs.takeWhile fun d => d ≠ '/' && !(colons && d = ':')
      match if name.length = cs.length && !isEnd then none else home? (String.ofList name) with
      | none => plain
      | some home =>
        itemsOf true home.toList
          ++ itemsWithHomes home? colons isEnd fuel false (cs.drop name.length)
    else plain

/-! ## Words -/

/-- Where a word is expanded: whether fields are wanted, whether its text is split as well, and
where homes may stand. -/
structure Manner where
  splits : Bool := false
  isOpen : Bool := false
  homes : HomePlaces := .nowhere

/-- The text of a part that is neither quoted nor an expansion. -/
def WordPart.plainText? : WordPart → Option (List Char)
  | .text chars false => some chars
  | _ => none

/-- The segments of a text that is not quoted; `begins` tells whether a home may stand in front,
and `isEnd` whether the word ends behind it. -/
def segmentsOfText (m : Manner) (begins isEnd : Bool) (chars : List Char) : Run (List Segment) := do
  let s ← get
  let splitting : Splitting := if m.isOpen then .separators else .none
  let items :=
    if chars.contains '~' then
      itemsWithHomes s.home? (m.homes = .colons) isEnd (chars.length + 1) begins chars
    else itemsOf false chars
  return [⟨splitting, items⟩]

/-- What is said of an expression that has no value. -/
def arithmeticFault (expression : String) : Arithmetic.Fault → String
  | .expected what => "arithmetic expression: expecting " ++ what ++ ": \"" ++ expression ++ "\""
  | .divisionByZero => "arithmetic expression: division by zero: \"" ++ expression ++ "\""
  | .illegalNumber text => "Illegal number: " ++ text

/-- Gives a variable a value, unless it is one that is not changed any more. -/
def assign (name value : String) : Step Unit := do
  if ((← get).named? name).any Variable.isConstant then failHere (name ++ ": is read only")
  else setVariable name value

/-- The value of an expression, whose assignments are carried out. -/
def evaluateArithmetic (expression : String) : Step Int := do
  let before := (← get).values
  match Arithmetic.evaluate before expression.toList with
  | .error fault => failHere (arithmeticFault expression fault)
  | .ok (n, after) =>
    for (name, value) in after do
      if Table.find? name before != some value then assign name value
    return n

/-- What is said of a parameter that has no value. -/
def missingFault (name : String) (orEmpty : Bool) (why : Option String) : String :=
  name ++ ": " ++ why.getD (if orEmpty then "parameter not set or null" else "parameter not set")

/-- The characters of items, one for each. -/
def charsOfItems (items : List Item) : List Char :=
  items.map fun item =>
    match item with
    | .glyph g => g.char
    | _ => '\x00'

mutual

/-- The segments of parts of a word; `capture` runs a script and gives its output, and `begins`
tells whether a home may stand in front. -/
def expandParts (capture : Command → Step String) (m : Manner) (begins : Bool) :
    List WordPart → Step (List Segment)
  | [] => return []
  | part :: parts => do
    let first ← match part.plainText? with
      | some chars => segmentsOfText m begins parts.isEmpty chars
      | none => expandPart capture m part
    let begins := m.homes = .colons && (part.plainText?.bind List.getLast?) = some ':'
    let rest ← expandParts capture m begins parts
    return first ++ rest
termination_by structural parts => parts

/-- The segments of a part of a word. -/
def expandPart (capture : Command → Step String) (m : Manner) :
    WordPart → Step (List Segment)
  | .text chars _ => return [⟨.none, .mark :: itemsOf true chars⟩]
  | .output script quoted => do
    let text ← capture script
    return [⟨if quoted then .none else .separators, itemsOf quoted text.toList⟩]
  | .arithmetic expression quoted => do
    let n ← evaluateArithmetic (textOf (← expandParts capture {} false expression))
    let items := itemsOf quoted (Decimal.intText n).toList
    return [⟨if quoted then .none else .separators, items⟩]
  | .parameter name use argument quoted => do
    let value? := (← get).parameter? name m.splits quoted
    let missing (orEmpty : Bool) : Bool :=
      match value? with
      | none => true
      | some items => orEmpty && items.isEmpty
    let segments (items : List Item) (arguments : List String) : List Segment :=
      let splitting := if !quoted then .separators
        else if name = "@" && !arguments.isEmpty then .gaps
        else .none
      [⟨splitting, items⟩]
    let value : Step (List Segment) := do
      let s ← get
      match s.parameter? name m.splits quoted with
      | some items => return segments items s.arguments
      | none => return []
    let given : Step (List Item) := do
      match value? with
      | some items => return items
      | none =>
        if (← get).options.contains 'u' then failHere (missingFault name false none)
        else return []
    let inside : Manner := { homes := if m.homes = .colons then .colons else .front }
    let inPlace : Step (List Segment) :=
      expandParts capture { inside with splits := m.splits, isOpen := !quoted } true argument
    match use with
    | .unknown => failHere "Bad substitution"
    | .value =>
      let _ ← given
      value
    | .length =>
      let items := itemsOf quoted (Decimal.natText (← given).length).toList
      return [⟨if quoted then .none else .separators, items⟩]
    | .orDefault orEmpty => if missing orEmpty then inPlace else value
    | .alternative orEmpty => if missing orEmpty then return [] else inPlace
    | .orAssign orEmpty =>
      if missing orEmpty then
        let text := textOf (← expandParts capture inside true argument)
        if Word.isName name then
          assign name text
          value
        else failHere (name ++ ": bad variable name")
      else value
    | .required orEmpty =>
      if missing orEmpty then
        let text := textOf (← expandParts capture inside true argument)
        failHere (missingFault name orEmpty (if argument.isEmpty then none else some text))
      else value
    | .withoutFront longest =>
      let items ← given
      let pattern :=
        NamePattern.read (glyphsOfSegments (← expandParts capture inside true argument))
      let kept := (pattern.withoutFront longest (charsOfItems items)).length
      return segments (items.drop (items.length - kept)) (← get).arguments
    | .withoutBack longest =>
      let items ← given
      let pattern :=
        NamePattern.read (glyphsOfSegments (← expandParts capture inside true argument))
      let kept := (pattern.withoutBack longest (charsOfItems items)).length
      return segments (items.take kept) (← get).arguments
termination_by structural part => part

end

/-! ## Uses of words -/

/-- The text that a word stands for where it is not split. -/
def expandText (capture : Command → Step String) (homes : HomePlaces) (word : Word) :
    Step String := do
  return textOf (← expandParts capture { homes } (homes ≠ .nowhere) word)

/-- The pattern that a word stands for. -/
def expandPattern (capture : Command → Step String) (word : Word) : Step NamePattern := do
  return NamePattern.read (glyphsOfSegments (← expandParts capture { homes := .front } true word))

/-- The arguments that a word stands for. -/
def expandWord (capture : Command → Step String) (word : Word) : Step (List String) := do
  match Word.plain? word with
  | some text =>
    if !text.any ['~', '*', '?', '[', '\\'].contains then return [text]
    else fields
  | none => fields
where
  /-- The arguments of the fields of the word. -/
  fields : Step (List String) := do
    let segments ← expandParts capture { splits := true, homes := .front } true word
    let s ← get
    return (breakUp s.separators none segments).flatMap (argumentsOfField s)

/-- The arguments that words stand for; if they go to a command that assigns, those that are
assignments are not split. -/
def expandFields (capture : Command → Step String) (assigns : Bool) :
    List Word → Step (List String)
  | [] => return []
  | word :: words => do
    let first ← match if assigns then Word.assignment? word else none with
      | some (name, value) => do
        let value ← expandText capture .colons value
        pure [name ++ "=" ++ value]
      | none => expandWord capture word
    return first ++ (← expandFields capture assigns words)

end LayerNet.Shell
