import LayerNet.Table

/-!
# Data documents

The values of a JSON document.  An object keeps its fields in the order in which they are written;
where a document wants its keys sorted, the fields are built as a `Table`, or the whole document
is put in order by `Json.sorted`.

Main definitions:

- `Json`: the values.
- `Json.object`: an object with sorted keys.
- `Json.sorted`: every object of a document with sorted keys, the last of equal keys kept.
-/

namespace LayerNet

/-- A value of a data document.  Integers and floats are told apart; floats are finite. -/
inductive Json where
  | null
  | bool (value : Bool)
  | int (value : Int)
  | float (value : Float)
  | str (text : String)
  | arr (items : List Json)
  | obj (fields : List (String × Json))
deriving Inhabited

namespace Json

/-! ## Building documents -/

/-- A float of a document; NaN and the infinities have no number and become `null`. -/
def ofFloat (x : Float) : Json :=
  if x.isFinite then .float x else .null

/-- A natural number of a document. -/
def ofNat (n : Nat) : Json :=
  .int n

/-- The document of an optional value, `null` for none. -/
def ofOption {α : Type} (toJson : α → Json) : Option α → Json
  | none => .null
  | some a => toJson a

/-- An object with the fields sorted by key; of equal keys the last is kept. -/
def object (fields : List (String × Json)) : Json :=
  .obj (Table.ofPairs fields)

/-- Whether a document is an object. -/
def isObject : Json → Bool
  | .obj _ => true
  | _ => false

/-! ## Sorting -/

mutual

/-- The document with the keys of every object sorted; of equal keys the last is kept. -/
def sorted : Json → Json
  | .arr items => .arr (sortedItems items)
  | .obj fields => .obj (sortedFields fields)
  | .null => .null
  | .bool b => .bool b
  | .int n => .int n
  | .float x => .float x
  | .str s => .str s
termination_by structural j => j

/-- Every item with sorted keys. -/
def sortedItems : List Json → List Json
  | [] => []
  | j :: js => j.sorted :: sortedItems js
termination_by structural js => js

/-- The fields sorted by key, their values with sorted keys. -/
def sortedFields : List (String × Json) → List (String × Json)
  | [] => []
  | (key, j) :: fields =>
    let rest := sortedFields fields
    if (Table.find? key rest).isSome then rest else Table.insert key j.sorted rest
termination_by structural fields => fields

end

end Json

end LayerNet
