/-!
# Identifiers

A node name becomes an identifier: letters in lower case, every character but letters and digits an
underscore.  What would not be an identifier, or is a word that has another meaning, is changed a
little.  Only ASCII letters and digits count.

Main definition: `identifierOf`.
-/

namespace LayerNet

/-- Words that an identifier must not be. -/
def reservedWords : List String :=
  ["as", "break", "const", "continue", "crate", "else", "enum", "extern", "false", "fn", "for",
   "if", "impl", "in", "let", "loop", "match", "mod", "move", "mut", "pub", "ref", "return",
   "self", "static", "struct", "super", "trait", "true", "type", "unsafe", "use", "where",
   "while", "async", "await", "dyn", "op", "scope"]

/-- A character of a name as it stands in an identifier. -/
def identifierChar (c : Char) : Char :=
  if c.isAlphanum then c.toLower else '_'

/-- Puts a letter or an underscore in front of characters that could not begin an identifier: `v`
where there is neither letter nor digit, `_` before a digit. -/
def withFirst (cs : List Char) : List Char :=
  if !cs.any Char.isAlphanum then 'v' :: cs
  else if cs.head?.any Char.isDigit then '_' :: cs
  else cs

/-- The identifier for a node name; a reserved word gets an underscore at its end. -/
def identifierOf (name : String) : String :=
  let identifier := String.ofList (withFirst (name.toList.map identifierChar))
  if reservedWords.contains identifier then identifier ++ "_" else identifier

end LayerNet
