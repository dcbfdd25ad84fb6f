import LayerNet.Json.Parser
import LayerNet.Json.Printer
import LayerNet.SavedGraph.Basic
import LayerNet.Text.Quoted

/-!
# Reading saved graphs

A saved graph is read straight from the lexemes of its document, so that of several problems the
first is reported: a lexeme out of place, or a value of the wrong shape.

A record is written as an object, its fields in any order and unknown fields ignored, or as an array
of its fields in order.  Names and operations must be there; lists that are left out are empty.

Main definitions:

- `ReadFault`: what can be wrong, with the messages of wrong shapes.
- `SavedGraph.parse`: a text read as a saved graph.
-/

namespace LayerNet

open Json (Lexeme Fault)

/-! ## Faults -/

/-- What can be wrong with the shape of a document. -/
inductive ShapeFault where
  | missing (field : String)
  | duplicate (field : String)
  | wrongType (found expected : String)
  | tooShort (length : Nat) (expected : String)
deriving DecidableEq, Repr

/-- What is said of a wrong shape. -/
def ShapeFault.message : ShapeFault → String
  | .missing field => "missing field `" ++ field ++ "`"
  | .duplicate field => "duplicate field `" ++ field ++ "`"
  | .wrongType found expected => "invalid type: " ++ found ++ ", expected " ++ expected
  | .tooShort length expected =>
    "invalid length " ++ Decimal.natText length ++ ", expected " ++ expected

/-- Why a text is not a saved graph. -/
inductive ReadFault where
  | document (fault : Fault)
  | shape (fault : ShapeFault)
deriving DecidableEq, Repr

namespace GraphReader

/-- A value that is read, or a fault. -/
abbrev Reading := Except ReadFault

/-- Takes a value off the front of some lexemes. -/
abbrev Reader (α : Type) := List Lexeme → Reading (α × List Lexeme)

/-- Where punctuation is wanted and `ls` stands. -/
def outOfPlace (ls : List Lexeme) : ReadFault :=
  .document (Json.punctuationFault ls)

/-- Where a value of another type is wanted and `ls` stands. -/
def unexpected (expected : String) (ls : List Lexeme) : ReadFault :=
  let found (what : String) : ReadFault := .shape (.wrongType what expected)
  match ls with
  | .null :: _ => found "null"
  | .bool b :: _ => found ("boolean `" ++ String.ofList (Json.boolChars b) ++ "`")
  | .int n :: _ => found ("integer `" ++ String.ofList (Json.intChars n) ++ "`")
  | .float x :: _ => found ("floating point `" ++ Decimal.documentText x ++ "`")
  | .text (some s) :: _ => found ("string " ++ Text.quote s)
  | .openBracket :: _ => found "sequence"
  | .openBrace :: _ => found "map"
  | ls => .document (Json.readFault ls)

/-! ## Texts and lists -/

/-- Reads a text. -/
def text : Reader String
  | .text (some s) :: rest => .ok (s, rest)
  | ls => .error (unexpected "a string" ls)

/-- The lexemes of the next item of an array, none at its end; before all items but the first
there is a comma. -/
def nextItem (first : Bool) : List Lexeme → Reading (Option (List Lexeme))
  | .closeBracket :: _ => .ok none
  | ls =>
    match first, ls with
    | true, _ :: _ => .ok (some ls)
    | false, .comma :: rest =>
      match rest with
      | [] | .closeBracket :: _ => .error (outOfPlace rest)
      | rest => .ok (some rest)
    | _, ls => .error (outOfPlace ls)

/-- The lexemes behind the closing bracket of an array. -/
def endItems : List Lexeme → Reading (List Lexeme)
  | .closeBracket :: rest => .ok rest
  | ls => .error (outOfPlace ls)

/-- Reads the items of an array up to behind its closing bracket; `acc` holds those read, in
reverse. -/
def items {α : Type} (item : Reader α) :
    Nat → Bool → List α → Reader (List α)
  | 0, _, _, ls => .error (outOfPlace ls)
  | fuel + 1, first, acc, ls => do
    match ← nextItem first ls with
    | none => return (acc.reverse, ← endItems ls)
    | some ls =>
      let (a, ls) ← item ls
      items item fuel false (a :: acc) ls

/-- Reads an array of items. -/
def list {α : Type} (item : Reader α) (fuel : Nat) : Reader (List α)
  | .openBracket :: rest => items item fuel true [] rest
  | ls => .error (unexpected "a sequence" ls)

/-! ## Records -/

/-- What a record does with the field of a key: how its value is read into the slots, or the fault
that the slot is filled already. -/
abbrev Slots (σ : Type) :=
  String → σ → Option (Except ShapeFault (Reader σ))

/-- A slot of a record: refuses to be filled twice. -/
def slot {σ α : Type} (key : String) (filled : Option α) (read : Reader α)
    (fill : α → σ) : Option (Except ShapeFault (Reader σ)) :=
  if filled.isSome then some (.error (.duplicate key))
  else some (.ok fun ls => (read ls).map fun (a, rest) => (fill a, rest))

/-- Reads a key; what may be wrong with the colon behind it is not looked at. -/
def key : Reader String
  | .text (some key) :: rest => .ok (key, rest)
  | .brokenText read _ :: _ => .error (.document read)
  | ls => .error (outOfPlace ls)

/-- The lexemes behind a colon. -/
def colon : List Lexeme → Reading (List Lexeme)
  | .colon :: rest => .ok rest
  | ls => .error (outOfPlace ls)

/-- Reads one field into the slots. -/
def field {σ : Type} (slots : Slots σ) (fuel : Nat) (s : σ) (ls : List Lexeme) :
    Reading (σ × List Lexeme) := do
  let (k, ls) ← key ls
  match slots k s with
  | some (.error fault) => .error (.shape fault)
  | some (.ok read) => read (← colon ls)
  | none =>
    match Json.skipValue fuel (← colon ls) with
    | .ok rest => return (s, rest)
    | .error fault => .error (.document fault)

/-- Reads fields up to behind the closing brace. -/
def fields {σ : Type} (slots : Slots σ) (skipFuel : Nat) : Nat → σ → Reader σ
  | 0, _, ls => .error (outOfPlace ls)
  | fuel + 1, s, ls => do
    match ← field slots skipFuel s ls with
    | (s, .closeBrace :: rest) => return (s, rest)
    | (s, .comma :: rest) => fields slots skipFuel fuel s rest
    | (_, ls) => .error (outOfPlace ls)

/-- Reads an object from behind its opening brace. -/
def object {σ : Type} (slots : Slots σ) (fuel : Nat) (s : σ) : Reader σ
  | .closeBrace :: rest => .ok (s, rest)
  | ls => fields slots fuel fuel s ls

/-- The value of a slot that must be filled. -/
def required {α : Type} (key : String) (filled : Option α) : Reading α :=
  match filled with
  | some a => .ok a
  | none => .error (.shape (.missing key))

/-- Reads the field of a record written as an array; it must be there. -/
def requiredItem {α : Type} (first : Bool) (place : Nat) (expected : String)
    (read : Reader α) (ls : List Lexeme) : Reading (α × List Lexeme) := do
  match ← nextItem first ls with
  | some ls => read ls
  | none => .error (.shape (.tooShort place expected))

/-- Reads the field of a record written as an array; a list that is left out is empty. -/
def listItem {α : Type} (first : Bool) (read : Reader (List α)) (ls : List Lexeme) :
    Reading (List α × List Lexeme) := do
  match ← nextItem first ls with
  | some ls => read ls
  | none => return ([], ls)

/-! ## Nodes -/

/-- The fields of a node that have been read. -/
structure NodeSlots where
  name : Option String := none
  op : Option String := none
  inputs : Option (List String) := none

/-- The slots of a node. -/
def nodeSlots (fuel : Nat) : Slots NodeSlots := fun k s =>
  if k = "name" then slot k s.name text fun a => { s with name := some a }
  else if k = "op" then slot k s.op text fun a => { s with op := some a }
  else if k = "inputs" then slot k s.inputs (list text fuel) fun a => { s with inputs := some a }
  else none

/-- Reads a node. -/
def node (fuel : Nat) : Reader GraphNode
  | .openBrace :: ls => do
    let (s, ls) ← object (nodeSlots fuel) fuel {} ls
    let name ← required "name" s.name
    let op ← required "op" s.op
    return (⟨name, op, s.inputs.getD []⟩, ls)
  | .openBracket :: ls => do
    let expected := "struct RawGraphNode with 3 elements"
    let (name, ls) ← requiredItem true 0 expected text ls
    let (op, ls) ← requiredItem false 1 expected text ls
    let (inputs, ls) ← listItem false (list text fuel) ls
    return (⟨name, op, inputs⟩, ← endItems ls)
  | ls => .error (unexpected "struct RawGraphNode" ls)

/-! ## Functions -/

/-- The fields of a function that have been read. -/
structure FunctionSlots where
  name : Option String := none
  nodes : Option (List GraphNode) := none

/-- The slots of a function. -/
def functionSlots (fuel : Nat) : Slots FunctionSlots := fun k s =>
  if k = "name" then slot k s.name text fun a => { s with name := some a }
  else if k = "nodes" then
    slot k s.nodes (list (node fuel) fuel) fun a => { s with nodes := some a }
  else none

/-- Reads a function. -/
def function (fuel : Nat) : Reader GraphFunction
  | .openBrace :: ls => do
    let (s, ls) ← object (functionSlots fuel) fuel {} ls
    let name ← required "name" s.name
    return (⟨name, s.nodes.getD []⟩, ls)
  | .openBracket :: ls => do
    let (name, ls) ← requiredItem true 0 "struct GraphFunction with 2 elements" text ls
    let (nodes, ls) ← listItem false (list (node fuel) fuel) ls
    return (⟨name, nodes⟩, ← endItems ls)
  | ls => .error (unexpected "struct GraphFunction" ls)

/-! ## Graphs -/

/-- The fields of a graph that have been read. -/
structure GraphSlots where
  nodes : Option (List GraphNode) := none
  functions : Option (List GraphFunction) := none

/-- The slots of a graph. -/
def graphSlots (fuel : Nat) : Slots GraphSlots := fun k s =>
  if k = "nodes" then slot k s.nodes (list (node fuel) fuel) fun a => { s with nodes := some a }
  else if k = "functions" then
    slot k s.functions (list (function fuel) fuel) fun a => { s with functions := some a }
  else none

/-- Reads a graph. -/
def graph (fuel : Nat) : Reader SavedGraph
  | .openBrace :: ls => do
    let (s, ls) ← object (graphSlots fuel) fuel {} ls
    return (⟨s.nodes.getD [], s.functions.getD []⟩, ls)
  | .openBracket :: ls => do
    let (nodes, ls) ← listItem true (list (node fuel) fuel) ls
    let (functions, ls) ← listItem false (list (function fuel) fuel) ls
    return (⟨nodes, functions⟩, ← endItems ls)
  | ls => .error (unexpected "struct SavedGraph" ls)

end GraphReader

/-- Reads a text as a saved graph. -/
def SavedGraph.parse (s : String) : Except ReadFault SavedGraph :=
  let ls := Lexeme.scan s.toList
  match GraphReader.graph (Json.fuelFor ls) ls with
  | .error fault => .error fault
  | .ok (graph, []) => .ok graph
  | .ok (_, _ :: _) => .error (.document .malformed)

end LayerNet
