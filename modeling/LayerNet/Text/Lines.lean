/-!
# Lines of a text

A line ends with a line feed, or with a carriage return and a line feed; the last line may go
without.  A text that ends with a line feed has no further, empty line.

Main definitions:

- `lines`: the lines of a text without their endings.
- `splitAtChar`: the pieces of a text between the occurrences of a character.
-/

namespace LayerNet.Text

/-- Drops the carriage return at the end of a line that a line feed closed. -/
def dropReturn : List Char → List Char
  | [] => []
  | ['\r'] => []
  | c :: cs => c :: dropReturn cs

/-- The lines of the characters; `pending` is the unfinished line read so far, in reverse. -/
def linesFrom (pending : List Char) : List Char → List (List Char)
  | [] => if pending.isEmpty then [] else [pending.reverse]
  | c :: cs =>
    if c = '\n' then dropReturn pending.reverse :: linesFrom [] cs
    else linesFrom (c :: pending) cs

/-- The lines of a text, without the line feeds (and the carriage returns before them). -/
def lines (s : String) : List String :=
  (linesFrom [] s.toList).map String.ofList

/-- The pieces of a text between the occurrences of one character. -/
def splitAtChar (sep : Char) (s : String) : List String :=
  go [] s.toList
where
  /-- Collects the pieces; `pending` is the piece read so far, in reverse. -/
  go (pending : List Char) : List Char → List String
    | [] => [String.ofList pending.reverse]
    | c :: cs =>
      if c = sep then String.ofList pending.reverse :: go [] cs else go (c :: pending) cs

end LayerNet.Text
