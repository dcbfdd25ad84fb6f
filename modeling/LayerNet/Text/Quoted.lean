import LayerNet.Text.GraphemeExtend
import LayerNet.Text.Printable

/-!
# Quoted texts

A text is quoted by double quotes around it.  Inside, the quote, the backslash and a few controls
are written with a backslash; a character that has no glyph, or that would merge with the one
before it, is written by its number in hexadecimal.  All others stand for themselves.

Main definition: `quote`.
-/

namespace LayerNet.Text

/-- Lower-case hexadecimal digits of a number, without leading zeros. -/
def hexDigits (n : Nat) : List Char :=
  Nat.toDigits 16 n

/-- A character written by its number. -/
def numbered (c : Char) : List Char :=
  ['\\', 'u', '\x7b'] ++ hexDigits c.toNat ++ ['\x7d']

/-- A character as it is written between double quotes. -/
def quotedChar (c : Char) : List Char :=
  if c = '"' then ['\\', '"']
  else if c = '\\' then ['\\', '\\']
  else if c = '\n' then ['\\', 'n']
  else if c = '\t' then ['\\', 't']
  else if c = '\r' then ['\\', 'r']
  else if c = '\x00' then ['\\', '0']
  else if joinsBefore c || isUnprinted c then numbered c
  else [c]

/-- A text between double quotes. -/
def quote (s : String) : String :=
  String.ofList ('"' :: s.toList.flatMap quotedChar ++ ['"'])

end LayerNet.Text
