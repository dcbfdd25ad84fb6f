import LayerNet.Shell.Builtins.Basic

/-!
# Commands for names

The commands that say what a name leads to, and those that give names another meaning.

Main definitions:

- `setAliases`, `unsetAliases`: `alias` and `unalias`.
- `describe`: what a name leads to.
- `noteFound`: `hash`.
-/

namespace LayerNet.Shell

/-! ## Aliases -/

/-- How many buckets aliases are listed from. -/
def aliasBuckets : Nat := 39

/-- An alias as a shell reads it. -/
def aliasText (name text : String) : String :=
  name ++ "=" ++ singleQuoted text ++ "\n"

/-- Sets or lists aliases. -/
def setAliases : Builtin := fun arguments => do
  let (_, operands) ← shellOptions "" arguments
  if operands.isEmpty then
    for (name, text) in inBuckets aliasBuckets (← get).aliases do out (aliasText name text)
  let mut status := 0
  for operand in operands do
    let (name, text?) := nameAndValue operand
    match if name.isEmpty then none else text? with
    | some text => changeProcess fun p => { p with aliases := Table.insert name text p.aliases }
    | none =>
      match Table.find? operand (← get).aliases with
      | some text => out (aliasText operand text)
      | none =>
        complain ("alias: " ++ operand ++ " not found")
        status := 1
  return status

/-- Takes aliases away. -/
def unsetAliases : Builtin := fun arguments => do
  let (given, operands) ← shellOptions "a" arguments
  if isGiven given 'a' then
    changeProcess fun p => { p with aliases := [] }
    return 0
  let mut status := 0
  for name in operands do
    if (Table.find? name (← get).aliases).isNone then
      complain ("unalias: " ++ name ++ " not found")
      status := 1
    changeProcess fun p => { p with aliases := p.aliases.filter fun a => a.1 != name }
  return status

/-! ## Meanings -/

/-- The path of a program, if there is one. -/
def State.pathOf? (s : State) (name : String) : Option String :=
  if name.contains '/' then
    if (toolAt? name).isSome || s.files.contains (toText name) then some name else none
  else
    match s.found.find? fun f => f.1 == name with
    | some (_, path) => some path
    | none => searchPath? s.files (s.valueOf? "PATH") name

/-- Says what a name leads to, in words or so that a shell reads it; gives the status. -/
def describe (inWords : Bool) (name : String) : Run Nat := do
  let s ← get
  let say (words brief : String) : Run Nat := do
    out (if inWords then name ++ words ++ "\n" else brief ++ "\n")
    return 0
  if keywords.contains name then say " is a shell keyword" name
  else
    match Table.find? name s.aliases with
    | some text =>
      if inWords then say (" is an alias for " ++ text) name
      else
        out ("alias " ++ aliasText name text)
        return 0
    | none =>
      match s.meaning true name with
      | .special => say " is a special shell builtin" name
      | .ordinary => say " is a shell builtin" name
      | .function _ => say " is a shell function" name
      | .program =>
        match s.pathOf? name with
        | some path =>
          let isNoted := s.found.any fun f => f.1 == name
          say (if isNoted then " is a tracked alias for " ++ path else " is " ++ path) path
        | none =>
          if inWords then out (name ++ ": not found\n")
          return 127

/-- Says what names lead to. -/
def sayTypes : Builtin := fun arguments => do
  let mut status := 0
  for name in arguments do
    status := status ||| (← describe true name)
  return status

/-- How many buckets the programs that were found are listed from. -/
def foundBuckets : Nat := 31

/-- Notes the path of a program that was found. -/
def rememberPath (name path : String) : Run Unit :=
  changeProcess fun p =>
    if name.contains '/' || p.found.any fun f => f.1 == name then p
    else { p with found := p.found ++ [(name, path)] }

/-- Notes or lists the paths of programs. -/
def noteFound : Builtin := fun arguments => do
  let (given, operands) ← shellOptions "r" arguments
  if isGiven given 'r' then
    changeProcess fun p => { p with found := [] }
    return 0
  if operands.isEmpty then
    for (_, path) in inBuckets foundBuckets (← get).found do out (path ++ "\n")
  let mut status := 0
  for name in operands do
    let s ← get
    if let .program := s.meaning true name then
      match s.pathOf? name with
      | some path => rememberPath name path
      | none =>
        complainHere (name ++ ": not found")
        status := 1
  return status

end LayerNet.Shell
