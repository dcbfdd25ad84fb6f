import LayerNet.Shell.Builtins.Basic

/-!
# Commands for variables, arguments and options

Main definitions:

- `markVariables`: `export` and `readonly`.
- `unsetNames`, `makeLocal`, `setShell`, `shiftArguments`: the commands of these names.
- `nextOption`: `getopts`.
-/

namespace LayerNet.Shell

/-! ## Variables -/

/-- Marks variables, or lists those that are marked. -/
def markVariables (front : String) (test : Variable → Bool) (mark : Variable → Variable) :
    Builtin := fun arguments => do
  let (given, operands) ← shellOptions "p" arguments
  if isGiven given 'p' || operands.isEmpty then
    listVariables (front ++ " ") true test
  else
    for operand in operands do
      let (name, value?) := nameAndValue operand
      checkName name
      if let some value := value? then assign name value
      changeProcess fun p => p.changeVariable name mark
  return 0

/-- Gives variables to programs. -/
def exportVariables : Builtin :=
  markVariables "export" Variable.isExported fun v => { v with isExported := true }

/-- Makes variables that are not changed any more. -/
def makeConstants : Builtin :=
  markVariables "readonly" Variable.isConstant fun v => { v with isConstant := true }

/-- Takes variables or functions away. -/
def unsetNames : Builtin := fun arguments => do
  let (given, operands) ← shellOptions "vf" arguments
  for name in operands do
    if (given.getLast?.map Prod.fst) = some 'f' then
      changeProcess fun p => { p with functions := p.functions.filter fun f => f.1 != name }
    else
      checkName name
      if ((← get).named? name).any Variable.isConstant then
        failHere (name ++ ": is read only")
      unsetVariable name
      if name = "OPTIND" then changeProcess fun p => { p with optionIndex := 1, optionPlace := 0 }
  return 0

/-- Notes what a variable is outside of the innermost frame. -/
def noteOutside (name : String) : Run Unit :=
  changeProcess fun p =>
    match p.frames with
    | frame :: frames =>
      if frame.any fun v => v.1 == name then p
      else { p with frames := ((name, p.named? name) :: frame) :: frames }
    | [] => p

/-- The name under which the options are noted that a function changes for itself. -/
def optionsName : String := "-"

/-- Makes variables that belong to the function that runs. -/
def makeLocal : Builtin := fun arguments => do
  if (← get).depth = 0 then failHere "not in a function"
  let (_, operands) ← shellOptions "" arguments
  for operand in operands do
    if operand = "-" then
      let letters := String.ofList (← get).options
      changeProcess fun p =>
        match p.frames with
        | frame :: frames =>
          { p with frames := ((optionsName, some { value? := some letters }) :: frame) :: frames }
        | [] => p
    else
      let (name, value?) := nameAndValue operand
      checkName name
      noteOutside name
      if let some value := value? then assign name value
  return 0

/-- Puts what the innermost frame notes in the place of what there is, and leaves it. -/
def leaveFrame : Run Unit :=
  changeProcess fun p =>
    match p.frames with
    | [] => p
    | frame :: frames =>
      frame.foldl
        (fun p (name, v?) =>
          if name = optionsName then { p with options := (v?.bind (·.value?)).getD "" |>.toList }
          else
            match v? with
            | some v => p.changeVariable name fun _ => v
            | none => p.withoutVariable name)
        { p with frames }

/-! ## Options -/

/-- The options by name, with their letters, in the order in which they are listed. -/
def optionNames : List (String × Char) :=
  [("errexit", 'e'), ("noglob", 'f'), ("ignoreeof", 'I'), ("interactive", 'i'), ("monitor", 'm'),
    ("noexec", 'n'), ("stdin", 's'), ("xtrace", 'x'), ("verbose", 'v'), ("vi", 'V'), ("emacs", 'E'),
    ("noclobber", 'C'), ("allexport", 'a'), ("notify", 'b'), ("nounset", 'u'), ("privileged", 'p'),
    ("nolog", '1'), ("debug", '2')]

/-- Sets or unsets an option. -/
def setOption (on : Bool) (letter : Char) : Run Unit :=
  changeProcess fun p =>
    let others := p.options.filter (· ≠ letter)
    { p with options := if on then letter :: others else others }

/-- Sets or unsets an option that is given by its name. -/
def setNamedOption (on : Bool) (name : String) : Step Unit := do
  match optionNames.find? fun o => o.1 == name with
  | some (_, letter) => setOption on letter
  | none => failHere ("Illegal option " ++ (if on then "-" else "+") ++ "o " ++ name)

/-- Lists the options, as commands that set them or for reading. -/
def listOptions (asCommands : Bool) : Run Unit := do
  let options := (← get).options
  if !asCommands then out "Current option settings\n"
  for (name, letter) in optionNames do
    let on := options.contains letter
    if asCommands then out ("set " ++ (if on then "-" else "+") ++ "o " ++ name ++ "\n")
    else
      let fill := String.ofList (List.replicate (16 - name.length) ' ')
      out (name ++ fill ++ (if on then "on" else "off") ++ "\n")

/-- Sets options by their letters; gives the arguments that are left.  The letter `o` is followed by
a name. -/
def setLetters (on : Bool) (rest : List String) : List Char → Step (List String)
  | [] => return rest
  | c :: cs => do
    if c = 'o' then
      match rest with
      | [] =>
        listOptions (!on)
        setLetters on rest cs
      | name :: rest =>
        setNamedOption on name
        setLetters on rest cs
    else if optionNames.any fun o => o.2 == c && c.isAlpha then
      setOption on c
      setLetters on rest cs
    else failHere ("Illegal option " ++ (if on then "-" else "+") ++ String.singleton c)

/-- Sets options in front of arguments; gives the arguments, if there are any to be set. -/
def setOptions : Nat → List String → Step (Option (List String))
  | 0, _ => return none
  | _, [] => return none
  | fuel + 1, argument :: rest => do
    match argument.toList with
    | ['-', '-'] => return some rest
    | ['-'] =>
      setOption false 'x'
      setOption false 'v'
      return if rest.isEmpty then none else some rest
    | '-' :: letters => setOptions fuel (← setLetters true rest letters)
    | '+' :: letters => setOptions fuel (← setLetters false rest letters)
    | _ => return some (argument :: rest)

/-- Sets options and arguments, or lists the variables. -/
def setShell : Builtin := fun arguments => do
  if arguments.isEmpty then listVariables "" false fun _ => true
  else if let some arguments ← setOptions (arguments.length + 1) arguments then
    changeProcess fun p => { p with arguments, optionIndex := 1, optionPlace := 0 }
  return 0

/-! ## Arguments -/

/-- Takes arguments away from the front. -/
def shiftArguments : Builtin := fun arguments => do
  let count ← match arguments with
    | [] => pure 1
    | text :: _ => numberArgument text
  if (← get).arguments.length < count then failHere "can't shift that many"
  changeProcess fun p =>
    { p with arguments := p.arguments.drop count, optionIndex := 1, optionPlace := 0 }
  return 0

/-- What the next look for an option finds. -/
structure OptionFound where
  letter : Char := '?'
  /-- the value of the option, if there is a word about it -/
  value : Option String := none
  complaint : Option String := none
  /-- which argument is looked at next, and how many letters of the one before it were passed -/
  index : Nat
  place : Nat := 0
  isEnd : Bool := false

/-- Looks for an option; `index` tells which argument is looked at, `place` how many letters of the
one before it were passed, zero if all. -/
def findOption (letters : List Char) (arguments : List String) (index place : Nat) : OptionFound :=
  let silent := letters.head? = some ':'
  let inside := if index ≤ 1 || place = 0 then []
    else ((arguments[index - 2]?.getD "").toList).drop place
  let begun : Option (List Char × Nat × Nat) :=
    if !inside.isEmpty then some (inside, index, place)
    else
      match (arguments[index - 1]?.getD "").toList with
      | '-' :: c :: cs => if c = '-' && cs.isEmpty then none else some (c :: cs, index + 1, 1)
      | _ => none
  let passesMark := inside.isEmpty && arguments[index - 1]? = some "--"
  match begun with
  | none => { index := if passesMark then index + 1 else index, isEnd := true }
  | some ([], _, _) => { index, isEnd := true }
  | some (c :: cs, index, place) =>
    let known := match letters.dropWhile (· ≠ c) with
      | _ :: ':' :: _ => some true
      | _ :: _ => some false
      | [] => none
    let place := if cs.isEmpty then 0 else place + 1
    match if c = ':' then none else known with
    | none =>
      if silent then { index, place, value := some (String.singleton c) }
      else { index, place, complaint := some ("Illegal option -" ++ String.singleton c) }
    | some false => { letter := c, index, place, value := some "" }
    | some true =>
      if !cs.isEmpty then { letter := c, index, value := some (String.ofList cs) }
      else
        match arguments[index - 1]? with
        | some value => { letter := c, index := index + 1, value := some value }
        | none =>
          if silent then { letter := ':', index, value := some (String.singleton c) }
          else { index, complaint := some ("No arg for -" ++ String.singleton c ++ " option") }

/-- Looks for the next option in arguments. -/
def nextOption : Builtin := fun arguments => do
  match arguments with
  | letters :: name :: given =>
    let s ← get
    let searched := if given.isEmpty then s.arguments else given
    let (index, place) :=
      if searched.length + 1 < s.optionIndex then (1, 0) else (s.optionIndex, s.optionPlace)
    let found := findOption letters.toList searched index place
    if let some text := found.complaint then complain text
    if !found.isEnd then
      match found.value with
      | some value => assign "OPTARG" value
      | none => unsetVariable "OPTARG"
    setVariable "OPTIND" (Decimal.natText found.index)
    checkName name
    assign name (String.singleton found.letter)
    changeProcess fun p => { p with optionIndex := found.index, optionPlace := found.place }
    return if found.isEnd then 1 else 0
  | _ => failHere "Usage: getopts optstring var [arg...]"

end LayerNet.Shell
