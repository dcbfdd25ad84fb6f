/-!
# Syntax of shell scripts

Words are made of literal text and of expansions.  Commands are simple commands and what is built
from them.

Main definitions:

- `WordPart`, `Word`: words before their expansion.
- `Redirect`: where a command reads and writes.
- `Command`: commands.
-/

namespace LayerNet.Shell

/-! ## Words -/

/-- What is done with the value of a parameter.  Where `orEmpty` holds, an empty value is treated
like a missing one.  A use that is not known is a fault when the word is expanded. -/
inductive ParameterUse where
  | value
  | length
  | orDefault (orEmpty : Bool)
  | orAssign (orEmpty : Bool)
  | alternative (orEmpty : Bool)
  | required (orEmpty : Bool)
  | withoutFront (longest : Bool)
  | withoutBack (longest : Bool)
  | unknown
deriving DecidableEq, Repr

/-- Whether the argument of a use is a pattern, which has quotation marks of its own. -/
def ParameterUse.takesPattern : ParameterUse → Bool
  | withoutFront _ | withoutBack _ => true
  | _ => false

/-- How a file is opened for writing: emptied, emptied although it must be new, written on at its
end, or read as well. -/
inductive OutputMode where
  | create
  | clobber
  | append
  | update
deriving DecidableEq, Repr

mutual

/-- A part of a word.  What is not quoted is split into fields, and may be a pattern.  An empty
quoted text keeps a field that would else vanish. -/
inductive WordPart where
  | text (chars : List Char) (quoted : Bool)
  | parameter (name : String) (use : ParameterUse) (argument : List WordPart) (quoted : Bool)
  | output (script : Command) (quoted : Bool)
  | arithmetic (expression : List WordPart) (quoted : Bool)

/-- What a descriptor is redirected to.  A document is given by its number among those that were
read. -/
inductive RedirectTarget where
  | input (path : List WordPart)
  | output (path : List WordPart) (mode : OutputMode)
  | copy (descriptor : List WordPart)
  | document (number : Nat)

/-- A redirection of a descriptor. -/
inductive Redirect where
  | mk (descriptor : Nat) (target : RedirectTarget)

/-- A command.  Lines are those that it begins on. -/
inductive Command where
  | simple (line : Nat) (assignments : List (String × List WordPart))
      (words : List (List WordPart)) (redirects : List Redirect)
  | pipeline (stages : List Command)
  | negated (command : Command)
  | both (first second : Command)
  | either (first second : Command)
  | sequence (commands : List Command)
  | background (command : Command)
  | subshell (line : Nat) (body : Command) (redirects : List Redirect)
  | redirected (line : Nat) (command : Command) (redirects : List Redirect)
  | conditional (condition thenBranch elseBranch : Command)
  | loop (untilTrue : Bool) (condition body : Command)
  | forEach (line : Nat) (name : String) (words : Option (List (List WordPart))) (body : Command)
  | choice (line : Nat) (word : List WordPart) (clauses : List (List (List WordPart) × Command))
  | function (name : String) (body : Command)

end

instance : Inhabited Command :=
  ⟨Command.sequence []⟩

/-- A word before its expansion. -/
abbrev Word := List WordPart

namespace Word

/-- The text of a word that holds nothing but one unquoted text. -/
def plain? : Word → Option String
  | [.text chars false] => some (String.ofList chars)
  | _ => none

/-- The literal text of a word, its expansions left out. -/
def literal (word : Word) : List Char :=
  word.flatMap fun part =>
    match part with
    | .text chars _ => chars
    | _ => []

/-- Whether a part of a word is quoted. -/
def hasQuotes (word : Word) : Bool :=
  word.any fun part =>
    match part with
    | .text _ quoted => quoted
    | _ => false

/-- Whether a character may begin the name of a variable. -/
def isNameStart (c : Char) : Bool :=
  c.isAlpha || c = '_'

/-- Whether a character may stand in the name of a variable. -/
def isNameChar (c : Char) : Bool :=
  c.isAlphanum || c = '_'

/-- Whether a text is the name of a variable. -/
def isName (text : String) : Bool :=
  (text.toList.head?.map isNameStart).getD false && text.toList.all isNameChar

/-- A word as an assignment to a variable. -/
def assignment? : Word → Option (String × Word)
  | .text chars false :: parts =>
    let name := chars.takeWhile isNameChar
    match chars.dropWhile isNameChar with
    | '=' :: value =>
      if (name.head?.map isNameStart).getD false then
        let first := if value.isEmpty then [] else [WordPart.text value false]
        some (String.ofList name, first ++ parts)
      else none
    | _ => none
  | _ => none

end Word

/-- Why a script cannot be read on. -/
structure SyntaxFault where
  line : Nat
  text : String
deriving DecidableEq, Repr

end LayerNet.Shell
