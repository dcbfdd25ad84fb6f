import Mathlib.Data.List.Forall2
import LayerNet.Proofs.Json.Grammar
import LayerNet.SavedGraph.Basic

/-!
# How saved graphs may be written

A graph, a function and a node are each written as a record: an object whose members stand in any
order.  A field is there once, but a list that is empty may be left out; members of other names hold
any value.  White space and the spelling of texts are free.

Main definitions:

- `NamedMember`: a member of an object whose key is a text.
- `Once`, `OnceUnlessEmpty`, `OthersFree`: what a record has of its fields, and besides them.
- `SavedGraph.IsWrittenAs`: the ways to write a graph.

Main results:

- `SavedGraph.isWrittenAs_compact`: the document of a graph is one of them.
- `SavedGraph.isWrittenAs_smilingText`: so is a text that uses what is free.
-/

namespace LayerNet

namespace Json

/-! ## Records -/

/-- A member of an object whose key is a text. -/
structure NamedMember extends Member where
  name : String
  spelled : SpelledText name key

/-- There is one member of the name, and its value is of the kind. -/
def Once (name : String) (holds : List Char → Prop) (members : List NamedMember) : Prop :=
  ∃ m, members.filter (·.name = name) = [m] ∧ holds m.value

/-- A list that is empty may be left out. -/
def OnceUnlessEmpty {α : Type} (name : String) (as : List α) (holds : List Char → Prop)
    (members : List NamedMember) : Prop :=
  Once name holds members ∨ as = [] ∧ ∀ m ∈ members, m.name ≠ name

/-- Members of other names hold any value. -/
def OthersFree (names : List String) (members : List NamedMember) : Prop :=
  ∀ m ∈ members, m.name ∉ names → IsValue m.value

/-- An object whose members have names. -/
def RecordOf (members : List NamedMember) : List Char → Prop :=
  ObjectOf (members.map NamedMember.toMember)

/-- The ways to write a list, if there are some to write its items. -/
def ListWrittenAs {α : Type} (writtenAs : α → List Char → Prop) (as : List α) (cs : List Char) :
    Prop :=
  ∃ items, List.Forall₂ writtenAs as items ∧ ArrayOf items cs

end Json

open Json

/-! ## Graphs -/

/-- The members of a record that writes a node. -/
structure GraphNode.Members (node : GraphNode) (members : List NamedMember) : Prop where
  name : Once "name" (SpelledText node.name) members
  op : Once "op" (SpelledText node.op) members
  inputs : OnceUnlessEmpty "inputs" node.inputs (ListWrittenAs SpelledText node.inputs) members
  others : OthersFree ["name", "op", "inputs"] members

/-- The ways to write a node. -/
def GraphNode.IsWrittenAs (node : GraphNode) (cs : List Char) : Prop :=
  ∃ members, node.Members members ∧ RecordOf members cs

/-- The members of a record that writes a function. -/
structure GraphFunction.Members (function : GraphFunction) (members : List NamedMember) : Prop where
  name : Once "name" (SpelledText function.name) members
  nodes : OnceUnlessEmpty "nodes" function.nodes
    (ListWrittenAs GraphNode.IsWrittenAs function.nodes) members
  others : OthersFree ["name", "nodes"] members

/-- The ways to write a function. -/
def GraphFunction.IsWrittenAs (function : GraphFunction) (cs : List Char) : Prop :=
  ∃ members, function.Members members ∧ RecordOf members cs

/-- The members of a record that writes a graph. -/
structure SavedGraph.Members (graph : SavedGraph) (members : List NamedMember) : Prop where
  nodes : OnceUnlessEmpty "nodes" graph.nodes
    (ListWrittenAs GraphNode.IsWrittenAs graph.nodes) members
  functions : OnceUnlessEmpty "functions" graph.functions
    (ListWrittenAs GraphFunction.IsWrittenAs graph.functions) members
  others : OthersFree ["nodes", "functions"] members

/-- The ways to write a graph; white space may stand around it. -/
def SavedGraph.IsWrittenAs (graph : SavedGraph) (cs : List Char) : Prop :=
  ∃ front record behind members, IsBlank front ∧ IsBlank behind ∧ graph.Members members ∧
    RecordOf members record ∧ cs = front ++ (record ++ behind)

/-! ## Documents of graphs -/

/-- A member without white space, its name as the printer spells it. -/
def Json.NamedMember.tight (name : String) (value : List Char) : NamedMember where
  toMember := Member.tight name value
  name := name
  spelled := spelledText_textChars name

/-- The member that a field is written as on one line. -/
def Json.NamedMember.ofField (field : String × Json) : NamedMember :=
  .tight field.1 (compactChars field.2)

/-- An object on one line has its fields as members, in their order. -/
theorem recordOf_compactChars (fields : List (String × Json)) :
    RecordOf (fields.map NamedMember.ofField) (compactChars (.obj fields)) := by
  rw [RecordOf, List.map_map]
  exact enclosed_compactFields fields

/-- A list on one line is a list of what its items are written as. -/
theorem listWrittenAs_compactChars {α : Type} {writtenAs : α → List Char → Prop}
    {document : α → Json} (h : ∀ a, writtenAs a (compactChars (document a))) (as : List α) :
    ListWrittenAs writtenAs as (compactChars (.arr (as.map document))) := by
  refine ⟨(as.map document).map compactChars, ?_, enclosed_compactItems _⟩
  rw [List.map_map, List.forall₂_map_right_iff, List.forall₂_same]
  exact fun a _ => h a

/-- The document of a node writes it.  A node without operands has no member for them. -/
theorem GraphNode.isWrittenAs_compactChars (node : GraphNode) :
    node.IsWrittenAs (compactChars node.toJson) := by
  refine ⟨_, ?_, recordOf_compactChars _⟩
  exact {
    name := ⟨_, rfl, spelledText_textChars _⟩
    op := ⟨_, rfl, spelledText_textChars _⟩
    inputs := Or.inl ⟨_, rfl, listWrittenAs_compactChars spelledText_textChars _⟩
    others := by simp [OthersFree, NamedMember.ofField, NamedMember.tight] }

/-- The document of a function writes it, with its nodes. -/
theorem GraphFunction.isWrittenAs_compactChars (function : GraphFunction) :
    function.IsWrittenAs (compactChars function.toJson) := by
  refine ⟨_, ?_, recordOf_compactChars _⟩
  exact {
    name := ⟨_, rfl, spelledText_textChars _⟩
    nodes := Or.inl ⟨_, rfl, listWrittenAs_compactChars GraphNode.isWrittenAs_compactChars _⟩
    others := by simp [OthersFree, NamedMember.ofField, NamedMember.tight] }

/-- The document of a graph writes it. -/
theorem SavedGraph.isWrittenAs_compact (graph : SavedGraph) :
    graph.IsWrittenAs graph.toJson.compact.toList := by
  refine ⟨[], graph.toJson.compact.toList, [], _, isBlank_nil, isBlank_nil, ?_,
    by rw [compact, String.toList_ofList]; exact recordOf_compactChars _, by simp⟩
  exact {
    nodes := Or.inl ⟨_, rfl, listWrittenAs_compactChars GraphNode.isWrittenAs_compactChars _⟩
    functions := Or.inl
      ⟨_, rfl, listWrittenAs_compactChars GraphFunction.isWrittenAs_compactChars _⟩
    others := by simp [OthersFree, NamedMember.ofField, NamedMember.tight] }

namespace SavedGraph

/-! ## A text that writes a graph -/

/-- A graph of one node, which has no operands. -/
def smiling : SavedGraph where
  nodes := [{ name := "a/b", op := "😀" }]

/-- A text that writes it, with a member that no graph has, and with more white space and escapes
than there have to be. -/
def smilingText : String :=
  "\n\x7b\"\\u0078\" : [-1.5e3, \x7b\"k\":\"\\ud800\"\x7d]\t," ++
    "\"nodes\":[\x7b\"op\":\"\\uD83d\\ude00\",\"name\":\"a\\/b\"\x7d]\x7d\r\n"

/-- The member that no graph has. -/
def spacedMember : NamedMember where
  key := "\"\\u0078\"".toList
  front := [' ']
  behind := [' ']
  value := "[-1.5e3, \x7b\"k\":\"\\ud800\"\x7d]".toList
  blank_front := by decide
  blank_behind := by decide
  name := "x"
  spelled :=
    have hunit : UnitEscape 0x78 "\\u0078".toList :=
      .digits (a := 0) (b := 0) (c := 7) (d := 8) (by decide) (by decide) (by decide) (by decide)
    ⟨_, .cons (.unit hunit rfl) .nil, rfl⟩

theorem isNumber_spacedMember : IsNumber "-1.5e3".toList := by
  refine Or.inr ⟨_, ⟨['1'], ['.', '5'], ['e', '3'], ?_, ?_, ?_, rfl⟩, rfl⟩
  · exact ⟨by decide, by decide⟩
  · exact Or.inr ⟨['5'], by decide, rfl⟩
  · exact Or.inr ⟨'e', [], ['3'], by decide, by decide, by decide, rfl⟩

-- Half of a surrogate pair means no text, but nobody asks what the member means.
/-- The text is the first half of a surrogate pair alone: it means no string, but it may stand in a
document. -/
theorem isText_spacedMember : IsText "\"\\ud800\"".toList :=
  have hunit : UnitEscape 0xD800 "\\ud800".toList :=
    .digits (a := 13) (b := 8) (c := 0) (d := 0) (by decide) (by decide) (by decide) (by decide)
  ⟨_, .unit hunit .nil, rfl⟩

theorem isValue_spacedMember : IsValue spacedMember.value := by
  let object := "\x7b\"k\":\"\\ud800\"\x7d".toList
  have hobject : IsValue object := by
    let member := Member.tight "k" "\"\\ud800\"".toList
    have hmember : Listed [member.chars] ([] ++ (member.chars ++ [])) :=
      .last isBlank_nil isBlank_nil
    have hmembers : ObjectOf [member] ('\x7b' :: _) := .listed hmember
    have hkey : IsText member.key := (spelledText_textChars "k").isText
    exact .object hmembers (List.forall_mem_singleton.mpr hkey)
      (List.forall_mem_singleton.mpr (.text isText_spacedMember))
  have hlast : Listed [object] ([' '] ++ (object ++ [])) := .last (by decide) isBlank_nil
  have hlisted : Listed ["-1.5e3".toList, object] ([] ++ (_ ++ ([] ++ ',' :: _))) :=
    .more isBlank_nil isBlank_nil hlast
  have harray : ArrayOf _ ('[' :: _) := .listed hlisted
  refine .array harray (List.forall_mem_cons.mpr ⟨.number isNumber_spacedMember, ?_⟩)
  exact List.forall_mem_singleton.mpr hobject

/-- The character is written as the two halves of its pair, in digits of either case. -/
theorem spelledText_smile : SpelledText "😀" "\"\\uD83d\\ude00\"".toList :=
  have hhigh : UnitEscape 0xD83D "\\uD83d".toList :=
    .digits (a := 13) (b := 8) (c := 3) (d := 13) (by decide) (by decide) (by decide) (by decide)
  have hlow : UnitEscape 0xDE00 "\\ude00".toList :=
    .digits (a := 13) (b := 14) (c := 0) (d := 0) (by decide) (by decide) (by decide) (by decide)
  ⟨_, .cons (.pair hhigh hlow (by decide) (by decide) (by decide)) .nil, rfl⟩

theorem spelledText_slash : SpelledText "a/b" "\"a\\/b\"".toList :=
  have ha : Spelled 'a' ['a'] := .plain ⟨by decide, by decide, by decide⟩
  have hb : Spelled 'b' ['b'] := .plain ⟨by decide, by decide, by decide⟩
  have hslash : Spelled '/' ['\\', '/'] := .letter (by decide)
  ⟨_, .cons ha (.cons hslash (.cons hb .nil)), rfl⟩

/-- The node has no member for its operands, since it has none. -/
theorem isWrittenAs_smilingNode : GraphNode.IsWrittenAs { name := "a/b", op := "😀" }
    "\x7b\"op\":\"\\uD83d\\ude00\",\"name\":\"a\\/b\"\x7d".toList := by
  let op := NamedMember.tight "op" "\"\\uD83d\\ude00\"".toList
  let name := NamedMember.tight "name" "\"a\\/b\"".toList
  have hlast : Listed [name.chars] ([] ++ (name.chars ++ [])) := .last isBlank_nil isBlank_nil
  have hlisted : Listed [op.chars, name.chars] ([] ++ (op.chars ++ ([] ++ ',' :: _))) :=
    .more isBlank_nil isBlank_nil hlast
  have hrecord : RecordOf [op, name] ('\x7b' :: _) := .listed hlisted
  refine ⟨[op, name], ?_, hrecord⟩
  exact {
    name := ⟨name, rfl, spelledText_slash⟩
    op := ⟨op, rfl, spelledText_smile⟩
    inputs := Or.inr ⟨rfl, by decide⟩
    others := by simp [OthersFree, op, name, NamedMember.tight] }

/-- The text writes the graph. -/
theorem isWrittenAs_smilingText : smiling.IsWrittenAs smilingText.toList := by
  let node := "\x7b\"op\":\"\\uD83d\\ude00\",\"name\":\"a\\/b\"\x7d".toList
  have hnode : Listed [node] ([] ++ (node ++ [])) := .last isBlank_nil isBlank_nil
  have hnodes : ArrayOf [node] ('[' :: _) := .listed hnode
  let nodes := NamedMember.tight "nodes" ('[' :: (node ++ [']']))
  have hlast : Listed [nodes.chars] ([] ++ (nodes.chars ++ [])) := .last isBlank_nil isBlank_nil
  have hlisted : Listed [spacedMember.chars, nodes.chars]
      ([] ++ (spacedMember.chars ++ (['\t'] ++ ',' :: _))) := .more isBlank_nil (by decide) hlast
  have hrecord : RecordOf [spacedMember, nodes] ('\x7b' :: _) := .listed hlisted
  refine ⟨['\n'], _, ['\r', '\n'], _, by decide, by decide, ?_, hrecord, rfl⟩
  have hothers : OthersFree ["nodes", "functions"] [spacedMember, nodes] := by
    have hvalue := isValue_spacedMember
    simp [OthersFree, nodes, NamedMember.tight, hvalue]
  exact {
    nodes := Or.inl ⟨nodes, rfl, [node], .cons isWrittenAs_smilingNode .nil, hnodes⟩
    functions := Or.inr ⟨rfl, by decide⟩
    others := hothers }

end SavedGraph

end LayerNet
