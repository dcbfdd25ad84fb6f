import LayerNet.Decimal.Digits

/-!
# Quotation marks of tools

How tools write names and arguments in what they say: so that a shell reads them back, or with
escapes.

Main definitions:

- `shellQuoted`: a text in quotation marks that a shell understands.
- `shownName`: a text in such quotation marks only if it needs them.
- `quoted`: a text in plain quotation marks with escapes.
-/

namespace LayerNet.Shell

namespace Quoting

/-- Whether a character can be shown as it is. -/
def isShown (c : Char) : Bool :=
  32 ≤ c.toNat && c.toNat ≤ 126

/-- The letter that stands for a control character. -/
def controlLetter? (c : Char) : Option Char :=
  match c with
  | '\x07' => some 'a'
  | '\x08' => some 'b'
  | '\t' => some 't'
  | '\n' => some 'n'
  | '\x0b' => some 'v'
  | '\x0c' => some 'f'
  | '\r' => some 'r'
  | _ => none

/-- A character that cannot be shown, behind a backslash. -/
def escaped (c : Char) : List Char :=
  match controlLetter? c with
  | some letter => ['\\', letter]
  | none =>
    let digits := Nat.toDigits 8 c.toNat
    '\\' :: List.replicate (3 - digits.length) '0' ++ digits

/-- Whether a character at some place of a text means the same in both kinds of quotation marks. -/
def suitsBoth (text : List Char) (isFirst : Bool) (c : Char) : Bool :=
  match c with
  | '\x7b' | '\x7d' => text.length = 1
  | '#' | '~' => isFirst
  | ' ' | '\'' | '%' | '+' | ',' | '-' | '.' | '/' | ':' | ']' | '_' => true
  | c => c.isAlphanum

/-- Whether a character at some place of a text makes it need quotation marks. -/
def needsMarks (text : List Char) (isFirst : Bool) (c : Char) : Bool :=
  match c with
  | '\x7b' | '\x7d' => text.length = 1
  | '#' | '~' => isFirst
  | ' ' | '\'' | '\\' | '!' | '"' | '$' | '&' | '(' | ')' | '*' | ';' | '<' | '=' | '>' | '?' | '['
  | '^' | '\x60' | '|' => true
  | c => !isShown c

/-- Whether some character of a text has a property that may hang on being the first one. -/
def anyChar (test : Bool → Char → Bool) : List Char → Bool
  | [] => false
  | c :: cs => test true c || cs.any (test false)

/-- The characters inside of the quotation marks of a shell; what cannot be shown stands in marks of
its own, and `inEscape` tells whether those are open. -/
def inMarks (inEscape : Bool) : List Char → List Char
  | [] => []
  | c :: cs =>
    if c = '\'' then (if inEscape then "\\''" else "'\\''").toList ++ inMarks false cs
    else if isShown c then (if inEscape then ['\'', '\''] else []) ++ c :: inMarks false cs
    else (if inEscape then [] else "'$'".toList) ++ escaped c ++ inMarks true cs

end Quoting

/-- A text in quotation marks that a shell understands. -/
def shellQuoted (text : String) : String :=
  let cs := text.toList
  if cs.contains '\'' && !Quoting.anyChar (fun first c => !Quoting.suitsBoth cs first c) cs then
    "\"" ++ text ++ "\""
  else "'" ++ String.ofList (Quoting.inMarks false cs) ++ "'"

/-- A text in quotation marks that a shell understands, if it needs them. -/
def shownName (text : String) : String :=
  if text.isEmpty || Quoting.anyChar (Quoting.needsMarks text.toList) text.toList then
    shellQuoted text
  else text

/-- A text in plain quotation marks, with escapes for what cannot be shown. -/
def quoted (text : String) : String :=
  let shown (c : Char) : List Char :=
    if c = '\'' || c = '\\' then ['\\', c]
    else if Quoting.isShown c then [c]
    else Quoting.escaped c
  "'" ++ String.ofList (text.toList.flatMap shown) ++ "'"

end LayerNet.Shell
