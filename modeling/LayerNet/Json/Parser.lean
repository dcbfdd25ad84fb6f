import LayerNet.Json.Lexeme

/-!
# Reading documents

A document is read from its lexemes by recursive descent.  Of any two calls inside each other one
uses up a lexeme, so twice the number of lexemes bounds the recursion; it is passed along as fuel.

Objects are read with their keys sorted, the last of equal keys kept.  At most 127 arrays and
objects may stand inside each other.

Main definitions:

- `Json.parse`: a text read as a document.
- `Json.skipValue`: a value passed over without being looked at.
-/

namespace LayerNet.Json

/-! ## What is wrong in a given place -/

/-- What is wrong where a value is to be read and `ls` stands. -/
def readFault : List Lexeme → Fault
  | [] => .unfinished
  | .brokenText read _ :: _ => read
  | .brokenNumber read :: _ => read
  | .brokenWord fault :: _ => fault
  | _ :: _ => .malformed

/-- What is wrong where a value is to be skipped and `ls` stands. -/
def skipFault : List Lexeme → Fault
  | [] => .unfinished
  | .brokenText _ skipped :: _ => skipped
  | .brokenWord fault :: _ => fault
  | _ :: _ => .malformed

/-- What is wrong where punctuation is wanted and `ls` stands. -/
def punctuationFault : List Lexeme → Fault
  | [] => .unfinished
  | _ :: _ => .malformed

/-! ## Keys -/

/-- The key of a field with the colon behind it, and the rest. -/
def readKey : List Lexeme → Except Fault (String × List Lexeme)
  | .text (some key) :: .colon :: rest => .ok (key, rest)
  | .text (some _) :: rest => .error (punctuationFault rest)
  | .brokenText read _ :: _ => .error read
  | ls => .error (punctuationFault ls)

/-- Passes over the key of a field and the colon behind it. -/
def skipKey : List Lexeme → Except Fault (List Lexeme)
  | .text _ :: .colon :: rest => .ok rest
  | .text _ :: rest => .error (punctuationFault rest)
  | .brokenText _ skipped :: _ => .error skipped
  | ls => .error (punctuationFault ls)

/-! ## Values -/

mutual

/-- Reads a value with `depth` levels of nesting allowed. -/
def readValue : Nat → Nat → List Lexeme → Except Fault (Json × List Lexeme)
  | 0, _, ls => .error (readFault ls)
  | fuel + 1, depth, ls =>
    match ls with
    | .null :: rest => .ok (.null, rest)
    | .bool b :: rest => .ok (.bool b, rest)
    | .int n :: rest => .ok (.int n, rest)
    | .float x :: rest => .ok (.float x, rest)
    | .text (some s) :: rest => .ok (.str s, rest)
    | .openBracket :: rest =>
      match depth with
      | 0 => .error .malformed
      | depth + 1 =>
        match rest with
        | .closeBracket :: rest => .ok (.arr [], rest)
        | rest => readItems fuel depth [] rest
    | .openBrace :: rest =>
      match depth with
      | 0 => .error .malformed
      | depth + 1 =>
        match rest with
        | .closeBrace :: rest => .ok (.obj [], rest)
        | rest => readFields fuel depth [] rest
    | ls => .error (readFault ls)

/-- Reads the items of an array up to its closing bracket; `acc` holds those read, in reverse. -/
def readItems : Nat → Nat → List Json → List Lexeme → Except Fault (Json × List Lexeme)
  | 0, _, _, ls => .error (readFault ls)
  | fuel + 1, depth, acc, ls =>
    match readValue fuel depth ls with
    | .error fault => .error fault
    | .ok (item, .closeBracket :: rest) => .ok (.arr (item :: acc).reverse, rest)
    | .ok (item, .comma :: rest) => readItems fuel depth (item :: acc) rest
    | .ok (_, rest) => .error (punctuationFault rest)

/-- Reads the fields of an object up to its closing brace; `acc` holds those read, sorted by key. -/
def readFields :
    Nat → Nat → List (String × Json) → List Lexeme → Except Fault (Json × List Lexeme)
  | 0, _, _, ls => .error (punctuationFault ls)
  | fuel + 1, depth, acc, ls =>
    match readKey ls with
    | .error fault => .error fault
    | .ok (key, rest) =>
      match readValue fuel depth rest with
      | .error fault => .error fault
      | .ok (value, .closeBrace :: rest) => .ok (.obj (Table.insert key value acc), rest)
      | .ok (value, .comma :: rest) => readFields fuel depth (Table.insert key value acc) rest
      | .ok (_, rest) => .error (punctuationFault rest)

end

mutual

/-- Passes over a value, however deep. -/
def skipValue : Nat → List Lexeme → Except Fault (List Lexeme)
  | 0, ls => .error (skipFault ls)
  | fuel + 1, ls =>
    match ls with
    | .null :: rest => .ok rest
    | .bool _ :: rest => .ok rest
    | .int _ :: rest => .ok rest
    | .float _ :: rest => .ok rest
    | .huge :: rest => .ok rest
    | .text _ :: rest => .ok rest
    | .openBracket :: .closeBracket :: rest => .ok rest
    | .openBracket :: rest => skipItems fuel rest
    | .openBrace :: .closeBrace :: rest => .ok rest
    | .openBrace :: rest => skipFields fuel rest
    | ls => .error (skipFault ls)

/-- Passes over the items of an array up to behind its closing bracket. -/
def skipItems : Nat → List Lexeme → Except Fault (List Lexeme)
  | 0, ls => .error (skipFault ls)
  | fuel + 1, ls =>
    match skipValue fuel ls with
    | .error fault => .error fault
    | .ok (.closeBracket :: rest) => .ok rest
    | .ok (.comma :: rest) => skipItems fuel rest
    | .ok rest => .error (punctuationFault rest)

/-- Passes over the fields of an object up to behind its closing brace. -/
def skipFields : Nat → List Lexeme → Except Fault (List Lexeme)
  | 0, ls => .error (punctuationFault ls)
  | fuel + 1, ls =>
    match skipKey ls with
    | .error fault => .error fault
    | .ok rest =>
      match skipValue fuel rest with
      | .error fault => .error fault
      | .ok (.closeBrace :: rest) => .ok rest
      | .ok (.comma :: rest) => skipFields fuel rest
      | .ok rest => .error (punctuationFault rest)

end

/-! ## Whole texts -/

/-- Fuel that a value made of these lexemes never uses up. -/
def fuelFor (ls : List Lexeme) : Nat :=
  2 * ls.length + 1

/-- How many arrays and objects may stand inside each other. -/
def maxDepth : Nat :=
  127

/-- Reads a text as one document. -/
def parse (s : String) : Except Fault Json :=
  let ls := Lexeme.scan s.toList
  match readValue (fuelFor ls) maxDepth ls with
  | .error fault => .error fault
  | .ok (j, []) => .ok j
  | .ok (_, _ :: _) => .error .malformed

end LayerNet.Json
