import LayerNet.Decimal.Reader

/-!
# Escapes

Backslashes in the arguments of commands that print them.

Main definitions:

- `Escape.read`: the character that an escape stands for.
- `Escape.replaced`: a text with its escapes replaced.
- `singleQuoted`: a text in quotation marks, so that a shell reads it as it is.
-/

namespace LayerNet.Shell

namespace Escape

/-- Whether a character is an octal digit. -/
def isOctal (c : Char) : Bool :=
  '0' ≤ c && c ≤ '7'

/-- The byte of the first octal digits, at most `count`, and what follows them. -/
def octalByte (count : Nat) (cs : List Char) : Char × List Char :=
  let ds := (cs.take count).takeWhile isOctal
  (Char.ofNat (ds.foldl (fun n c => 8 * n + (c.toNat - 48)) 0 % 256), cs.drop ds.length)

/-- What the letter of an escape stands for. -/
def ofLetter? (c : Char) : Option Char :=
  match c with
  | 'a' => some '\x07'
  | 'b' => some '\x08'
  | 'e' => some '\x1b'
  | 'f' => some '\x0c'
  | 'n' => some '\n'
  | 'r' => some '\r'
  | 't' => some '\t'
  | 'v' => some '\x0b'
  | '\\' => some '\\'
  | _ => none

/-- The character that an escape stands for, read from behind its backslash, and what follows it.
The backslash of what is no escape stands for itself. -/
def read (cs : List Char) : Char × List Char :=
  match cs with
  | [] => ('\\', [])
  | c :: rest =>
    if isOctal c then octalByte 3 (c :: rest)
    else
      match ofLetter? c with
      | some e => (e, rest)
      | none => ('\\', c :: rest)

/-- The characters with escapes replaced, up to an escape that ends the output; tells whether there
was one.  Octal digits may have one more zero in front. -/
def replacedFrom : Nat → List Char → List Char × Bool
  | 0, cs => (cs, false)
  | fuel + 1, cs =>
    let put (c : Char) (rest : List Char) : List Char × Bool :=
      let (more, stops) := replacedFrom fuel rest
      (c :: more, stops)
    match cs with
    | [] => ([], false)
    | '\\' :: 'c' :: _ => ([], true)
    | '\\' :: '0' :: d :: cs =>
      let (c, rest) := read (if isOctal d then d :: cs else '0' :: d :: cs)
      put c rest
    | '\\' :: cs =>
      let (c, rest) := read cs
      put c rest
    | c :: cs => put c cs

/-- A text with its escapes replaced, up to an escape that ends the output; tells whether there was
one. -/
def replaced (cs : List Char) : List Char × Bool :=
  if cs.contains '\\' then replacedFrom (cs.length + 1) cs else (cs, false)

/-- The digit of a hexadecimal character. -/
def hexValue? (c : Char) : Option Nat :=
  if c.isDigit then some (c.toNat - 48)
  else if 'a' ≤ c.toLower && c.toLower ≤ 'f' then some (c.toLower.toNat - 87)
  else none

/-- The character that an escape stands for where an `x` has at most two hexadecimal digits behind
it, read from behind its backslash, and what follows it. -/
def readWide (cs : List Char) : Char × List Char :=
  match cs with
  | 'x' :: rest =>
    let digits := (rest.take 2).map hexValue? |>.takeWhile Option.isSome |>.filterMap id
    if digits.isEmpty then ('\\', cs)
    else (Char.ofNat (digits.foldl (fun n d => 16 * n + d) 0), rest.drop digits.length)
  | cs => read cs

/-- The characters with such escapes replaced, up to an escape that ends the output; tells whether
there was one.  Octal digits may have one more zero in front, and a quotation mark has escapes only
if `marks` says so. -/
def replacedWideFrom (marks : Bool) : Nat → List Char → List Char × Bool
  | 0, cs => (cs, false)
  | fuel + 1, cs =>
    let put (c : Char) (rest : List Char) : List Char × Bool :=
      let (more, stops) := replacedWideFrom marks fuel rest
      (c :: more, stops)
    match cs with
    | [] => ([], false)
    | '\\' :: 'c' :: _ => ([], true)
    | '\\' :: '0' :: cs =>
      let (c, rest) := octalByte 3 cs
      put c rest
    | '\\' :: '"' :: cs => if marks then put '"' cs else put '\\' ('"' :: cs)
    | '\\' :: cs =>
      let (c, rest) := readWide cs
      put c rest
    | c :: cs => put c cs

/-- A text with such escapes replaced, up to an escape that ends the output; tells whether there was
one. -/
def replacedWide (marks : Bool) (cs : List Char) : List Char × Bool :=
  if cs.contains '\\' then replacedWideFrom marks (cs.length + 1) cs else (cs, false)

end Escape

/-- A text in quotation marks, so that a shell reads it as it is: runs of single quotation marks
stand in double ones. -/
def singleQuoted (text : String) : String :=
  String.ofList (quote (text.length + 1) text.toList)
where
  /-- The text from a place on, in quotation marks. -/
  quote : Nat → List Char → List Char
    | 0, _ => []
    | fuel + 1, cs =>
      let plain := cs.takeWhile (· ≠ '\'')
      let marks := (cs.drop plain.length).takeWhile (· = '\'')
      let rest := cs.drop (plain.length + marks.length)
      let front := '\'' :: plain ++ ['\'']
      if marks.isEmpty then front
      else
        let front := front ++ '"' :: marks ++ ['"']
        if rest.isEmpty then front else front ++ quote fuel rest

end LayerNet.Shell
