import LayerNet.Decimal.Layout
import LayerNet.Json.Basic

/-!
# Writing documents

A document is written compactly, without any space, or spread over lines, with two spaces for each
level.  Texts are written between double quotes; the quote, the backslash and the controls below
U+0020 are escaped and every other character stands for itself.

Main definitions:

- `Json.compact`: the document on one line.
- `Json.spread`: the document over several lines.
-/

namespace LayerNet.Json

/-! ## Texts and numbers -/

/-- Two lower-case hexadecimal digits. -/
def hexPair (n : Nat) : List Char :=
  [Nat.digitChar (n / 16 % 16), Nat.digitChar (n % 16)]

/-- A character as it is written inside a text. -/
def escapedChar (c : Char) : List Char :=
  if c = '"' then ['\\', '"']
  else if c = '\\' then ['\\', '\\']
  else if c = '\n' then ['\\', 'n']
  else if c = '\t' then ['\\', 't']
  else if c = '\r' then ['\\', 'r']
  else if c = '\x08' then ['\\', 'b']
  else if c = '\x0c' then ['\\', 'f']
  else if c.toNat < 0x20 then ['\\', 'u', '0', '0'] ++ hexPair c.toNat
  else [c]

/-- A text between double quotes. -/
def textChars (s : String) : List Char :=
  '"' :: s.toList.flatMap escapedChar ++ ['"']

/-- The decimal digits of an integer with its sign. -/
def intChars (n : Int) : List Char :=
  if n < 0 then '-' :: Decimal.digits n.natAbs else Decimal.digits n.natAbs

/-- A float, in the layout of documents. -/
def floatChars (x : Float) : List Char :=
  (Decimal.documentText x).toList

/-- A truth value. -/
def boolChars : Bool → List Char
  | true => ['t', 'r', 'u', 'e']
  | false => ['f', 'a', 'l', 's', 'e']

/-- The word for nothing. -/
def nullChars : List Char :=
  ['n', 'u', 'l', 'l']

/-! ## On one line -/

mutual

/-- The characters of a document on one line. -/
def compactChars : Json → List Char
  | .null => nullChars
  | .bool b => boolChars b
  | .int n => intChars n
  | .float x => floatChars x
  | .str s => textChars s
  | .arr items => '[' :: compactItems items ++ [']']
  | .obj fields => '\x7b' :: compactFields fields ++ ['\x7d']
termination_by structural j => j

/-- The items of an array with commas between them. -/
def compactItems : List Json → List Char
  | [] => []
  | j :: js => compactChars j ++ compactMoreItems js
termination_by structural js => js

/-- Further items, a comma before each. -/
def compactMoreItems : List Json → List Char
  | [] => []
  | j :: js => ',' :: compactChars j ++ compactMoreItems js
termination_by structural js => js

/-- The fields of an object with commas between them. -/
def compactFields : List (String × Json) → List Char
  | [] => []
  | (key, j) :: fields => textChars key ++ ':' :: compactChars j ++ compactMoreFields fields
termination_by structural fields => fields

/-- Further fields, a comma before each. -/
def compactMoreFields : List (String × Json) → List Char
  | [] => []
  | (key, j) :: fields =>
    ',' :: textChars key ++ ':' :: compactChars j ++ compactMoreFields fields
termination_by structural fields => fields

end

/-- The document on one line, without any space. -/
def compact (j : Json) : String :=
  String.ofList (compactChars j)

/-! ## Over several lines -/

/-- A line feed and the indentation of a level. -/
def newLine (level : Nat) : List Char :=
  '\n' :: List.replicate (2 * level) ' '

mutual

/-- The characters of a document over several lines; its inner lines stand one level deeper. -/
def spreadChars (level : Nat) : Json → List Char
  | .null => nullChars
  | .bool b => boolChars b
  | .int n => intChars n
  | .float x => floatChars x
  | .str s => textChars s
  | .arr [] => ['[', ']']
  | .arr (j :: js) =>
    '[' :: newLine (level + 1) ++ spreadChars (level + 1) j ++ spreadMoreItems (level + 1) js
      ++ newLine level ++ [']']
  | .obj [] => ['\x7b', '\x7d']
  | .obj ((key, j) :: fields) =>
    '\x7b' :: newLine (level + 1) ++ textChars key ++ ':' :: ' ' :: spreadChars (level + 1) j
      ++ spreadMoreFields (level + 1) fields ++ newLine level ++ ['\x7d']
termination_by structural j => j

/-- Further items, each on a line of its own. -/
def spreadMoreItems (level : Nat) : List Json → List Char
  | [] => []
  | j :: js => ',' :: newLine level ++ spreadChars level j ++ spreadMoreItems level js
termination_by structural js => js

/-- Further fields, each on a line of its own. -/
def spreadMoreFields (level : Nat) : List (String × Json) → List Char
  | [] => []
  | (key, j) :: fields =>
    ',' :: newLine level ++ textChars key ++ ':' :: ' ' :: spreadChars level j
      ++ spreadMoreFields level fields
termination_by structural fields => fields

end

/-- The document over several lines, two spaces for each level. -/
def spread (j : Json) : String :=
  String.ofList (spreadChars 0 j)

end LayerNet.Json
