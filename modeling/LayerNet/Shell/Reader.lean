import LayerNet.Shell.Syntax
import LayerNet.Table

/-!
# Reading shell scripts

A script is read character by character.  A backslash in front of the end of a line joins two lines.
The text of an alias takes the place of its name in what is still to be read.

Main definitions:

- `Token`: words, operators and what else a script is made of.
- `Reader`: what is still to be read, and what was read ahead.
- `Read`: steps of reading, which may find a fault.
-/

namespace LayerNet.Shell

/-! ## Tokens -/

/-- What the operator of a redirection asks for. -/
inductive RedirectKind where
  | input
  | output (mode : OutputMode)
  | copy
  | document (stripTabs : Bool)
deriving DecidableEq, Repr

/-- A token. -/
inductive Token where
  | word (word : Word)
  | keyword (text : String)
  | operator (text : String)
  | redirect (descriptor : Nat) (kind : RedirectKind)
  | newline
  | ended

namespace Token

/-- How a token is named in a fault. -/
def name : Token → String
  | word _ => "word"
  | keyword text | operator text => "\"" ++ text ++ "\""
  | redirect .. => "redirection"
  | newline => "newline"
  | ended => "end of file"

/-- Whether a token is a given word with a meaning of its own. -/
def isKeyword (text : String) : Token → Bool
  | keyword t => t == text
  | _ => false

/-- Whether a token is a given operator. -/
def isOperator (text : String) : Token → Bool
  | operator t => t == text
  | _ => false

/-- Whether a list of commands ends before a token. -/
def closes : Token → Bool
  | ended => true
  | operator text => [")", ";;"].contains text
  | keyword text => ["do", "done", "elif", "else", "esac", "fi", "then", "\x7d"].contains text
  | _ => false

end Token

/-- The words that have a meaning where a command begins. -/
def keywords : List String :=
  ["!", "case", "do", "done", "elif", "else", "esac", "fi", "for", "if", "in", "then", "until",
    "while", "\x7b", "\x7d"]

/-- The commands that a shell looks for before its functions. -/
def specialNames : List String :=
  [":", ".", "break", "continue", "eval", "exec", "exit", "export", "local", "readonly", "return",
    "set", "shift", "times", "trap", "unset"]

/-! ## The state of reading -/

/-- A document that has been asked for: its number, the line that ends it, whether tabs before its
lines are left out, and whether its body is taken as it is. -/
structure PendingDocument where
  number : Nat
  last : List Char
  stripTabs : Bool
  isLiteral : Bool

/-- An alias whose text is being read: how much is behind that text, and whether the next word can
be an alias again. -/
structure Replaced where
  behind : Nat
  name : String
  checksNext : Bool

/-- What is still to be read, and what was read ahead. -/
structure Reader where
  input : List Char
  line : Nat := 1
  aliases : Table String := []
  replaced : List Replaced := []
  /-- how much was to be read where the last word begins, if there are aliases -/
  wordStart : Nat := 0
  pushed : Option Token := none
  pending : List PendingDocument := []
  documents : Array Word := #[]

/-- Steps of reading. -/
abbrev Read := StateT Reader (Except SyntaxFault)

/-- Ends reading with a fault. -/
def faulty {α : Type} (text : String) : Read α := do
  throw ⟨(← get).line, text⟩

/-- Ends reading at a token that cannot stand where it does. -/
def unexpected {α : Type} (token : Token) (expected : Option String := none) : Read α :=
  let wanted := match expected with
    | some e => " (expecting " ++ e ++ ")"
    | none => ""
  faulty (token.name ++ " unexpected" ++ wanted)

/-- Reads a token again. -/
def pushBack (token : Token) : Read Unit :=
  modify fun r => { r with pushed := some token }

/-! ## Characters -/

/-- Drops the backslashes in front of ends of lines, with the number of lines joined. -/
def joined : List Char → List Char × Nat
  | '\\' :: '\n' :: cs =>
    let (cs, n) := joined cs
    (cs, n + 1)
  | cs => (cs, 0)

/-- Joins the lines here. -/
def joinLines : Read Unit :=
  modify fun r =>
    match r.input with
    | '\\' :: '\n' :: _ =>
      let (input, n) := joined r.input
      { r with input, line := r.line + n }
    | _ => r

/-- The next character, which is not taken away. -/
def peekRaw : Read (Option Char) :=
  return (← get).input.head?

/-- The next character after lines are joined, which is not taken away. -/
def peek : Read (Option Char) := do
  joinLines
  peekRaw

/-- Takes the next character away. -/
def advance : Read Unit :=
  modify fun r =>
    match r.input with
    | '\n' :: cs => { r with input := cs, line := r.line + 1 }
    | _ :: cs => { r with input := cs }
    | [] => r

/-- The next character after lines are joined. -/
def next : Read (Option Char) := do
  let c ← peek
  advance
  return c

/-- Takes the next character away if it is the given one. -/
def takes (c : Char) : Read Bool := do
  if (← peek) = some c then
    advance
    return true
  else return false

/-- Takes away the characters up to the first one that fails a test. -/
def takeWhileJoined (test : Char → Bool) : Nat → List Char → Read (List Char)
  | 0, taken => return taken.reverse
  | fuel + 1, taken => do
    match ← peek with
    | some c =>
      if test c then
        advance
        takeWhileJoined test fuel (c :: taken)
      else return taken.reverse
    | none => return taken.reverse

/-- Adds literal characters to the parts, which are in reverse. -/
def addText (chars : List Char) (quoted : Bool) : List WordPart → List WordPart
  | .text before q :: parts =>
    if q = quoted then .text (before ++ chars) q :: parts
    else .text chars quoted :: .text before q :: parts
  | parts => .text chars quoted :: parts

/-! ## Documents -/

/-- Asks for a document; gives its number. -/
def askDocument (last : List Char) (stripTabs isLiteral : Bool) : Read Nat := do
  let r ← get
  let number := r.documents.size
  let asked : PendingDocument := { number, last, stripTabs, isLiteral }
  set { r with documents := r.documents.push [], pending := r.pending ++ [asked] }
  return number

/-- Takes the line here away if it is the last one of a document; tabs before it are left out if
that is wanted. -/
def atDocumentEnd (p : PendingDocument) : Read Bool := do
  let r ← get
  let input := if p.stripTabs then r.input.dropWhile (· = '\t') else r.input
  let line := input.take p.last.length
  let rest := input.drop p.last.length
  if line = p.last && (rest.isEmpty || rest.head? = some '\n') && !input.isEmpty then
    set { r with input := rest.tail, line := r.line + 1 }
    return true
  else
    set { r with input }
    return false

/-- The lines of a document that is taken as it is; `body` is in reverse. -/
def literalBody (p : PendingDocument) : Nat → List Char → Read (List Char)
  | 0, body => return body.reverse
  | fuel + 1, body => do
    if ← atDocumentEnd p then return body.reverse
    let r ← get
    let line := r.input.takeWhile (· ≠ '\n')
    match r.input.drop line.length with
    | [] =>
      set { r with input := [] }
      return body.reverse ++ line
    | _ :: rest =>
      set { r with input := rest, line := r.line + 1 }
      literalBody p fuel ('\n' :: line.reverse ++ body)

/-! ## Aliases -/

/-- Puts the text of an alias in the place of a word, if the word is one that is not being replaced
already. -/
def replaceAlias (name : String) : Read Bool := do
  let r ← get
  let active := r.replaced.filter fun a => a.behind < r.wordStart
  match Table.find? name r.aliases with
  | none =>
    set { r with replaced := active }
    return false
  | some text =>
    if active.any fun a => a.name == name then
      set { r with replaced := active }
      return false
    else
      let chars := text.toList
      let checksNext := chars.getLast? = some ' ' || chars.getLast? = some '\t'
      let chars := if checksNext then chars else chars ++ [' ']
      set { r with
        replaced := ⟨r.input.length, name, checksNext⟩ :: active
        input := chars ++ r.input }
      return true

/-- Whether the word that was read follows the text of an alias behind which words can be
aliases. -/
def followsAlias : Read Bool := do
  let r ← get
  return r.replaced.any fun a => a.checksNext && r.wordStart ≤ a.behind

end LayerNet.Shell
