import LayerNet.Table

/-!
# Directory trees

What a path can lead to: a file, a device, or a directory with entries of its own.  That every file
stands in a directory is so by construction.

Main definitions:

- `Device`: what it gives to a reader, and what it takes from a writer.
- `Node`: files, devices and directories.
- `Node.find?`, `Node.put`, `Node.erase`: what is at a place, and changes there.
- `Node.listing`: all that is in a directory.
-/

namespace LayerNet

/-- Files that hold nothing: `null` reads as empty, `zero` and `full` as zeros without end; `full`
cannot be written. -/
inductive Device where
  | null
  | zero
  | full
deriving DecidableEq, Repr

/-- Whether reading a device never comes to an end. -/
def Device.endless : Device → Bool
  | null => false
  | zero | full => true

/-- Whether a device takes what is written to it.  To write nothing needs no space. -/
def Device.takes (content : ByteArray) : Device → Bool
  | null | zero => true
  | full => content.isEmpty

/-- What a path can lead to. -/
inductive Node where
  | file (content : ByteArray) (executable : Bool)
  | device (device : Device)
  | directory (entries : List (String × Node))

namespace Node

/-- A directory without entries. -/
def empty : Node :=
  .directory []

instance : Inhabited Node :=
  ⟨empty⟩

/-- The entries of a directory; nothing else has any. -/
def entries : Node → Table Node
  | directory es => es
  | _ => []

/-- Whether a node is a directory. -/
def isDirectory : Node → Bool
  | directory _ => true
  | _ => false

/-- Whether a node is a file. -/
def isFile : Node → Bool
  | file .. => true
  | _ => false

/-! ## Places -/

/-- What is at a place, which is given by the names of the entries that lead there. -/
def find? (node : Node) : List String → Option Node
  | [] => some node
  | name :: names => (Table.find? name node.entries).bind fun child => child.find? names

/-- Puts `new` at a place; directories that are missing on the way are made, and what is in the way
makes room. -/
def put (new node : Node) : List String → Node
  | [] => new
  | name :: names =>
    let child := (Table.find? name node.entries).getD empty
    .directory (Table.insert name (put new child names) node.entries)

/-- Takes away what is at a place. -/
def erase (node : Node) : List String → Node
  | [] => node
  | [name] =>
    match node with
    | directory es => .directory (Table.erase name es)
    | node => node
  | name :: names =>
    match Table.find? name node.entries with
    | none => node
    | some child => .directory (Table.insert name (erase child names) node.entries)

@[simp]
theorem entries_directory (es : List (String × Node)) : (directory es).entries = es :=
  rfl

@[simp]
theorem find?_nil (node : Node) : node.find? [] = some node := by
  cases node <;> rfl

/-- A place is found by going down, one entry after the other; only directories have any. -/
theorem find?_cons (node : Node) (name : String) (names : List String) :
    node.find? (name :: names)
      = (Table.find? name node.entries).bind fun child => child.find? names := by
  cases node <;> rfl

/-- What is put at a place is found there, whatever was on the way to it. -/
@[simp]
theorem find?_put_self (new node : Node) (place : List String) :
    (put new node place).find? place = some new := by
  induction place generalizing node with
  | nil => simp [put]
  | cons name names ih => simp [put, find?_cons, ih]

/-! ## Listings -/

mutual

/-- All that is below a node, with the paths from `front`: contents of files, and directories, which
have none; a directory stands before its entries. -/
def listing (front : String) : Node → List (String × Option ByteArray)
  | directory es => listingEntries front es
  | _ => []
termination_by structural node => node

/-- All that is among entries and below them. -/
def listingEntries (front : String) : List (String × Node) → List (String × Option ByteArray)
  | [] => []
  | (name, node) :: rest =>
    let path := front ++ name
    let here := match node with
      | .file content _ => [(path, some content)]
      | .device _ => []
      | .directory _ => [(path ++ "/", none)]
    here ++ listing (path ++ "/") node ++ listingEntries front rest
termination_by structural es => es

end

end Node

end LayerNet
