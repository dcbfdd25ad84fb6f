import LayerNet.Proofs.Json.Skipping
import LayerNet.Proofs.SavedGraph.Writing
import LayerNet.SavedGraph.Reader

/-!
# Saved graphs are read back

However a graph is written, it is what is read.  The members of a record are read one after the
other into slots.  At any time a field waits in the members that are left, or its slot is filled and
the members that are left do not fill it again; a list that was left out stays empty.

Main definitions:

- `Takes`: lexemes that are read as a value.
- `Pending`: what a slot and the members that are left have of a field.
- `Readable`: characters that are cut into such lexemes.

Main results:

- `takes_list`: lists of values.
- `exists_object_eq`: the members of a record, with an invariant of its slots.
- `readable_node`, `readable_function`, `readable_graph`: the records.
- `SavedGraph.parse_of_writing`: whole texts.
-/

namespace LayerNet

open Json

namespace GraphReader

/-! ## Values -/

/-- The lexemes are read as the value, and twice their number is enough fuel.  They do not begin
with a bracket that closes an array. -/
structure Takes {α : Type} (read : Nat → Reader α) (a : α) (ls : List Lexeme) : Prop where
  begins : ∃ l ls', ls = l :: ls' ∧ l ≠ .closeBracket
  reads : ∀ fuel more, 2 * ls.length ≤ fuel → read fuel (ls ++ more) = .ok (a, more)

theorem takes_text (s : String) : Takes (fun _ => text) s [.text (some s)] where
  begins := ⟨_, _, rfl, by simp⟩
  reads _ _ _ := rfl

/-! ## Lists -/

/-- The first item has no comma before it. -/
theorem nextItem_cons {l : Lexeme} (h : l ≠ .closeBracket) (rest : List Lexeme) :
    nextItem true (l :: rest) = .ok (some (l :: rest)) := by
  cases l with
  | closeBracket => exact absurd rfl h
  | _ => rfl

/-- Each further item has one. -/
theorem nextItem_comma {l : Lexeme} (h : l ≠ .closeBracket) (rest : List Lexeme) :
    nextItem false (.comma :: l :: rest) = .ok (some (l :: rest)) := by
  cases l with
  | closeBracket => exact absurd rfl h
  | _ => rfl

theorem length_le_further (lss : List (List Lexeme)) : lss.length ≤ (further lss).length := by
  induction lss with
  | nil => exact Nat.le_refl _
  | cons ls lss ih =>
      simp only [further, List.flatMap_cons, List.length_append, List.length_cons] at ih ⊢
      omega

variable {α : Type} {read : Nat → Reader α}

/-- Further items are read, a comma before each. -/
theorem items_further {as : List α} {lss : List (List Lexeme)}
    (h : List.Forall₂ (Takes read) as lss)
    {inner fuel : Nat} (hinner : 2 * (further lss).length ≤ inner) (hfuel : lss.length < fuel)
    (acc : List α) (more : List Lexeme) :
    items (read inner) fuel false acc (further lss ++ .closeBracket :: more) =
      .ok (acc.reverse ++ as, more) := by
  induction h generalizing fuel acc with
  | nil =>
      obtain ⟨fuel, rfl⟩ : ∃ n, fuel = n + 1 := ⟨fuel - 1, by simp at hfuel; omega⟩
      rw [List.append_nil]
      rfl
  | @cons a ls as lss htakes _ ih =>
      obtain ⟨fuel, rfl⟩ : ∃ n, fuel = n + 1 := ⟨fuel - 1, by omega⟩
      have hfurther : further (ls :: lss) = .comma :: (ls ++ further lss) := rfl
      rw [hfurther, List.length_cons, List.length_append] at hinner
      rw [List.length_cons] at hfuel
      rcases htakes.begins with ⟨l, ls', rfl, hl⟩
      have hitem := htakes.reads inner (further lss ++ .closeBracket :: more) (by omega)
      have hrest := ih (by omega) (by omega : lss.length < fuel) (a :: acc)
      rw [List.cons_append] at hitem
      rw [hfurther, List.cons_append, List.append_assoc, List.cons_append, items]
      simp only [nextItem_comma hl, bind, Except.bind]
      rw [hitem]
      simp only
      rw [hrest, List.reverse_cons, List.append_assoc]
      rfl

/-- The items of a list are read one by one up to the closing bracket.  The fuel is for the number
of items, and `inner` for the lexemes of each. -/
theorem items_joined {as : List α} {lss : List (List Lexeme)} (h : List.Forall₂ (Takes read) as lss)
    {inner fuel : Nat} (hinner : 2 * (joined lss).length ≤ inner) (hfuel : lss.length < fuel)
    (more : List Lexeme) :
    items (read inner) fuel true [] (joined lss ++ .closeBracket :: more) = .ok (as, more) := by
  obtain ⟨fuel, rfl⟩ : ∃ n, fuel = n + 1 := ⟨fuel - 1, by omega⟩
  cases h with
  | nil => rfl
  | @cons a ls as lss htakes hrest =>
      have hjoined : joined (ls :: lss) = ls ++ further lss := rfl
      rw [hjoined, List.length_append] at hinner
      rw [List.length_cons] at hfuel
      rcases htakes.begins with ⟨l, ls', rfl, hl⟩
      have hitem := htakes.reads inner (further lss ++ .closeBracket :: more) (by omega)
      have hitems := items_further hrest (by omega : 2 * (further lss).length ≤ inner)
        (by omega : lss.length < fuel) [a] more
      rw [List.cons_append] at hitem
      rw [hjoined, List.append_assoc, List.cons_append, items]
      simp only [nextItem_cons hl, bind, Except.bind]
      rw [hitem]
      exact hitems

theorem length_le_joined {as : List α} {lss : List (List Lexeme)}
    (h : List.Forall₂ (Takes read) as lss) : lss.length ≤ (joined lss).length := by
  cases h with
  | nil => exact Nat.le_refl _
  | @cons a ls as lss htakes _ =>
      have hrest := length_le_further lss
      rcases htakes.begins with ⟨l, ls', rfl, -⟩
      simp only [joined, List.length_cons, List.length_append]
      omega

/-- A list is read if its items are. -/
theorem takes_list {as : List α} {lss : List (List Lexeme)}
    (h : List.Forall₂ (Takes read) as lss) :
    Takes (fun fuel => list (read fuel) fuel) as (arrayLexemes lss) where
  begins := ⟨_, _, rfl, by simp⟩
  reads fuel more hfuel := by
    have hcount := length_le_joined h
    simp only [arrayLexemes, List.length_cons, List.length_append, List.length_nil] at hfuel
    rw [arrayLexemes, List.cons_append, List.append_assoc]
    exact items_joined h (by omega) (by omega) more

/-! ## Fields -/

/-- A field in lexemes: its name and its value. -/
abbrev NamedValue := String × List Lexeme

/-- A field as a member whose key is a text. -/
def NamedValue.toField (m : NamedValue) : Json.Field :=
  (some m.1, m.2)

/-- The lexemes of a field. -/
def NamedValue.lexemes (m : NamedValue) : List Lexeme :=
  m.toField.lexemes

variable {σ : Type} {slots : Nat → Slots σ}

/-- Reading the field takes the slots from `s` to `s'`. -/
def Fills (slots : Nat → Slots σ) (s : σ) (m : NamedValue) (s' : σ) : Prop :=
  ∀ fuel more, 2 * m.2.length ≤ fuel →
    field (slots fuel) fuel s (m.lexemes ++ more) = .ok (s', more)

/-- A member of a known name fills its slot, which was empty. -/
theorem fills_of_slot {name : String} {a : α} {ls : List Lexeme} {s : σ} {fill : α → σ}
    (hslot : ∀ fuel, slots fuel name s = slot name none (read fuel) fill)
    (htakes : Takes read a ls) : Fills slots s (name, ls) (fill a) := by
  intro fuel more hfuel
  have hread := htakes.reads fuel more hfuel
  simp only [field, NamedValue.lexemes, NamedValue.toField, Json.Field.lexemes, List.cons_append,
    key, bind, Except.bind, hslot, slot, colon]
  simp [hread, Except.map]

/-- A member of another name is passed over, and no slot is filled. -/
theorem fills_of_none {m : NamedValue} {s : σ} (hnone : ∀ fuel, slots fuel m.1 s = none)
    (hskips : Skips m.2) : Fills slots s m s := by
  intro fuel more hfuel
  have hskip := hskips fuel more hfuel
  simp only [field, NamedValue.lexemes, NamedValue.toField, Json.Field.lexemes, List.cons_append,
    key, bind, Except.bind, hnone, colon, hskip]
  rfl

theorem NamedValue.length_lexemes (m : NamedValue) : m.lexemes.length = m.2.length + 2 :=
  rfl

/-- If each field leads from what holds of the slots to what holds of them without it, then all of
them are read. -/
theorem exists_fields_eq {Inv : List NamedValue → σ → Prop}
    (hstep : ∀ m rest s, Inv (m :: rest) s → ∃ s', Fills slots s m s' ∧ Inv rest s')
    {m : NamedValue} {ms : List NamedValue} {s : σ} (h : Inv (m :: ms) s) :
    ∃ s', Inv [] s' ∧ ∀ inner fuel more,
      2 * (joined ((m :: ms).map NamedValue.lexemes)).length ≤ inner → ms.length < fuel →
      fields (slots inner) inner fuel s
        (joined ((m :: ms).map NamedValue.lexemes) ++ .closeBrace :: more) = .ok (s', more) := by
  induction ms generalizing m s with
  | nil =>
      rcases hstep m [] s h with ⟨s', hfills, hinv⟩
      refine ⟨s', hinv, fun inner fuel more hinner hfuel => ?_⟩
      obtain ⟨fuel, rfl⟩ : ∃ n, fuel = n + 1 := ⟨fuel - 1, by omega⟩
      have hjoined : joined ([m].map NamedValue.lexemes) = m.lexemes := List.append_nil _
      rw [hjoined, m.length_lexemes] at hinner
      rw [hjoined, fields, hfills inner _ (by omega)]
      rfl
  | cons m' ms ih =>
      rcases hstep m (m' :: ms) s h with ⟨s', hfills, hinv⟩
      rcases ih hinv with ⟨s'', hinv', hrest⟩
      refine ⟨s'', hinv', fun inner fuel more hinner hfuel => ?_⟩
      obtain ⟨fuel, rfl⟩ : ∃ n, fuel = n + 1 := ⟨fuel - 1, by omega⟩
      have hjoined : joined ((m :: m' :: ms).map NamedValue.lexemes) =
          m.lexemes ++ .comma :: joined ((m' :: ms).map NamedValue.lexemes) :=
        joined_cons_cons _ _ _
      rw [hjoined, List.length_append, List.length_cons, m.length_lexemes] at hinner
      rw [List.length_cons] at hfuel
      rw [hjoined, List.append_assoc, List.cons_append, fields, hfills inner _ (by omega)]
      exact hrest inner fuel more (by omega) (by omega)

theorem length_le_joined_lexemes (ms : List NamedValue) :
    ms.length ≤ (joined (ms.map NamedValue.lexemes)).length := by
  cases ms with
  | nil => exact Nat.le_refl _
  | cons m ms =>
      have hrest := length_le_further (ms.map NamedValue.lexemes)
      rw [List.length_map] at hrest
      simp only [List.map_cons, joined, List.length_cons, List.length_append, m.length_lexemes]
      omega

/-- All members of a record are read, from behind its opening brace. -/
theorem exists_object_eq {Inv : List NamedValue → σ → Prop}
    (hstep : ∀ m rest s, Inv (m :: rest) s → ∃ s', Fills slots s m s' ∧ Inv rest s')
    {ms : List NamedValue} {s : σ} (h : Inv ms s) :
    ∃ s', Inv [] s' ∧ ∀ fuel more,
      2 * (joined (ms.map NamedValue.lexemes)).length < fuel →
      object (slots fuel) fuel s (joined (ms.map NamedValue.lexemes) ++ .closeBrace :: more) =
        .ok (s', more) := by
  cases ms with
  | nil => exact ⟨s, h, fun _ _ _ => rfl⟩
  | cons m ms =>
      rcases exists_fields_eq hstep h with ⟨s', hinv, hfields⟩
      refine ⟨s', hinv, fun fuel more hfuel => ?_⟩
      have hcount := length_le_joined_lexemes (m :: ms)
      rw [List.length_cons] at hcount
      exact hfields fuel fuel more (by omega) (by omega)

/-! ## Slots -/

/-- What a slot and the fields that are left have of the field of a name: it was read and is not
there again, or it is there once and has to be read, or it may be left out and is. -/
inductive Pending (read : Nat → Reader α) (name : String) (a : α) (optional : Prop)
    (ms : List NamedValue) : Option α → Prop where
  | filled (h : ∀ m ∈ ms, m.1 ≠ name) : Pending read name a optional ms (some a)
  | awaited {ls : List Lexeme} (h : ms.filter (·.1 = name) = [(name, ls)])
      (htakes : Takes read a ls) : Pending read name a optional ms none
  | omitted (hoptional : optional) (h : ∀ m ∈ ms, m.1 ≠ name) :
      Pending read name a optional ms none

namespace Pending

variable {name : String} {a : α} {optional : Prop} {m : NamedValue} {ms : List NamedValue}
  {ls : List Lexeme} {filled : Option α}

/-- Other fields leave a slot as it is. -/
theorem pass (h : Pending read name a optional (m :: ms) filled) (hne : m.1 ≠ name) :
    Pending read name a optional ms filled := by
  cases h with
  | filled h => exact .filled (List.forall_mem_cons.mp h).2
  | awaited h htakes =>
      rw [List.filter_cons_of_neg (by simpa using hne)] at h
      exact .awaited h htakes
  | omitted hoptional h => exact .omitted hoptional (List.forall_mem_cons.mp h).2

/-- The field itself is read into its slot, which is empty until then. -/
theorem fills (h : Pending read name a optional ((name, ls) :: ms) filled) {s : σ} {fill : α → σ}
    (hslot : ∀ fuel, slots fuel name s = slot name filled (read fuel) fill) :
    Fills slots s (name, ls) (fill a) ∧ Pending read name a optional ms (some a) := by
  cases h with
  | filled h => exact absurd rfl (List.forall_mem_cons.mp h).1
  | awaited h htakes =>
      rw [List.filter_cons_of_pos (by simp), List.cons.injEq, Prod.mk.injEq,
        List.filter_eq_nil_iff] at h
      rcases h with ⟨⟨-, rfl⟩, hrest⟩
      exact ⟨fills_of_slot hslot htakes, .filled fun m hmem => by simpa using hrest m hmem⟩
  | omitted _ h => exact absurd rfl (List.forall_mem_cons.mp h).1

/-- In the end a slot is filled, or its field may be left out. -/
theorem of_nil (h : Pending read name a optional [] filled) :
    filled = some a ∨ optional ∧ filled = none := by
  cases h with
  | filled _ => exact Or.inl rfl
  | awaited h _ => cases h
  | omitted hoptional _ => exact Or.inr ⟨hoptional, rfl⟩

end Pending

/-- What the slots and the fields that are left have of a list that may be left out if it is
empty. -/
abbrev PendingList (read : Nat → Reader α) (name : String) (as : List α) (ms : List NamedValue)
    (filled : Option (List α)) : Prop :=
  Pending (fun fuel => list (read fuel) fuel) name as (as = []) ms filled

/-- When all members are read, the list is the one that was read, or empty if it was left out. -/
theorem PendingList.getD_eq {name : String} {as : List α} {filled : Option (List α)}
    (h : PendingList read name as [] filled) : filled.getD [] = as := by
  rcases Pending.of_nil h with rfl | ⟨hempty, rfl⟩
  · rfl
  · exact hempty.symm

/-- Fields of other names are passed over. -/
def SkipsOthers (names : List String) (ms : List NamedValue) : Prop :=
  ∀ m ∈ ms, m.1 ∉ names → Skips m.2

/-- A record whose fields are read is read, if it can be had from its slots. -/
theorem takes_objectLexemes {record : Nat → Reader α} {a : α} {start : σ}
    {Inv : List NamedValue → σ → Prop}
    (hstep : ∀ m rest s, Inv (m :: rest) s → ∃ s', Fills slots s m s' ∧ Inv rest s')
    {ms : List NamedValue} (h : Inv ms start)
    (hrecord : ∀ s fuel ls more, Inv [] s → object (slots fuel) fuel start ls = .ok (s, more) →
      record fuel (.openBrace :: ls) = .ok (a, more)) :
    Takes record a (objectLexemes (ms.map NamedValue.toField)) where
  begins := ⟨_, _, rfl, by simp⟩
  reads fuel more hfuel := by
    rcases exists_object_eq hstep h with ⟨s, hinv, hobject⟩
    have hlexemes : (ms.map NamedValue.toField).map Json.Field.lexemes =
        ms.map NamedValue.lexemes := List.map_map
    rw [objectLexemes, hlexemes] at hfuel ⊢
    simp only [List.length_cons, List.length_append, List.length_nil] at hfuel
    rw [List.cons_append, List.append_assoc]
    exact hrecord s fuel _ more hinv (hobject fuel more (by omega))

/-! ## Nodes -/

/-- What the slots of a node and the fields that are left have of the node. -/
structure PendingNode (node : GraphNode) (ms : List NamedValue) (s : NodeSlots) : Prop where
  name : Pending (fun _ => text) "name" node.name False ms s.name
  op : Pending (fun _ => text) "op" node.op False ms s.op
  inputs : PendingList (fun _ => text) "inputs" node.inputs ms s.inputs
  others : SkipsOthers ["name", "op", "inputs"] ms

/-- The slots of a record by their names, here and in the following lemmas: nothing else of the
readers is used below. -/
theorem nodeSlots_name (fuel : Nat) (s : NodeSlots) :
    nodeSlots fuel "name" s = slot "name" s.name text fun a => { s with name := some a } :=
  rfl

theorem nodeSlots_op (fuel : Nat) (s : NodeSlots) :
    nodeSlots fuel "op" s = slot "op" s.op text fun a => { s with op := some a } :=
  rfl

theorem nodeSlots_inputs (fuel : Nat) (s : NodeSlots) :
    nodeSlots fuel "inputs" s =
      slot "inputs" s.inputs (list text fuel) fun a => { s with inputs := some a } :=
  rfl

/-- Each field of a node fills its slot or is passed over. -/
theorem PendingNode.step {node : GraphNode} (m : NamedValue) (ms : List NamedValue) (s : NodeSlots)
    (h : PendingNode node (m :: ms) s) :
    ∃ s', Fills nodeSlots s m s' ∧ PendingNode node ms s' := by
  rcases m with ⟨name, ls⟩
  rcases List.forall_mem_cons.mp h.others with ⟨hskips, hothers⟩
  by_cases hname : name = "name"
  · subst hname
    rcases h.name.fills fun fuel => nodeSlots_name fuel s with ⟨hfills, hfilled⟩
    exact ⟨_, hfills, hfilled, h.op.pass (by decide : "name" ≠ "op"),
      h.inputs.pass (by decide : "name" ≠ "inputs"), hothers⟩
  by_cases hop : name = "op"
  · subst hop
    rcases h.op.fills fun fuel => nodeSlots_op fuel s with ⟨hfills, hfilled⟩
    exact ⟨_, hfills, h.name.pass hname, hfilled, h.inputs.pass (by decide : "op" ≠ "inputs"),
      hothers⟩
  by_cases hinputs : name = "inputs"
  · subst hinputs
    rcases h.inputs.fills fun fuel => nodeSlots_inputs fuel s with ⟨hfills, hfilled⟩
    exact ⟨_, hfills, h.name.pass hname, h.op.pass hop, hfilled, hothers⟩
  · have hnone (fuel : Nat) : nodeSlots fuel name s = none := by
      simp [nodeSlots, hname, hop, hinputs]
    have hother : name ∉ ["name", "op", "inputs"] := by simp [hname, hop, hinputs]
    exact ⟨s, fills_of_none hnone (hskips hother), h.name.pass hname, h.op.pass hop,
      h.inputs.pass hinputs, hothers⟩

/-- A node is read from its members, in any order and with others between them. -/
theorem PendingNode.takes {n : GraphNode} {ms : List NamedValue} (h : PendingNode n ms {}) :
    Takes node n (objectLexemes (ms.map NamedValue.toField)) := by
  refine takes_objectLexemes PendingNode.step h fun s fuel ls more hend hobject => ?_
  have hname : s.name = some n.name := hend.name.of_nil.resolve_right And.left
  have hop : s.op = some n.op := hend.op.of_nil.resolve_right And.left
  have hinputs : s.inputs.getD [] = n.inputs := hend.inputs.getD_eq
  simp [node, hobject, required, hname, hop, hinputs, bind, Except.bind, pure, Except.pure]

/-! ## Functions -/

/-- What the slots of a function and the fields that are left have of the function. -/
structure PendingFunction (f : GraphFunction) (ms : List NamedValue) (s : FunctionSlots) :
    Prop where
  name : Pending (fun _ => text) "name" f.name False ms s.name
  nodes : PendingList node "nodes" f.nodes ms s.nodes
  others : SkipsOthers ["name", "nodes"] ms

theorem functionSlots_name (fuel : Nat) (s : FunctionSlots) :
    functionSlots fuel "name" s = slot "name" s.name text fun a => { s with name := some a } :=
  rfl

theorem functionSlots_nodes (fuel : Nat) (s : FunctionSlots) :
    functionSlots fuel "nodes" s =
      slot "nodes" s.nodes (list (node fuel) fuel) fun a => { s with nodes := some a } :=
  rfl

/-- Each field of a function fills its slot or is passed over. -/
theorem PendingFunction.step {f : GraphFunction} (m : NamedValue) (ms : List NamedValue)
    (s : FunctionSlots) (h : PendingFunction f (m :: ms) s) :
    ∃ s', Fills functionSlots s m s' ∧ PendingFunction f ms s' := by
  rcases m with ⟨name, ls⟩
  rcases List.forall_mem_cons.mp h.others with ⟨hskips, hothers⟩
  by_cases hname : name = "name"
  · subst hname
    rcases h.name.fills fun fuel => functionSlots_name fuel s with ⟨hfills, hfilled⟩
    exact ⟨_, hfills, hfilled, h.nodes.pass (by decide : "name" ≠ "nodes"), hothers⟩
  by_cases hnodes : name = "nodes"
  · subst hnodes
    rcases h.nodes.fills fun fuel => functionSlots_nodes fuel s with ⟨hfills, hfilled⟩
    exact ⟨_, hfills, h.name.pass hname, hfilled, hothers⟩
  · have hnone (fuel : Nat) : functionSlots fuel name s = none := by
      simp [functionSlots, hname, hnodes]
    have hother : name ∉ ["name", "nodes"] := by simp [hname, hnodes]
    exact ⟨s, fills_of_none hnone (hskips hother), h.name.pass hname, h.nodes.pass hnodes, hothers⟩

/-- The same for a function, whose nodes are read as above. -/
theorem PendingFunction.takes {f : GraphFunction} {ms : List NamedValue}
    (h : PendingFunction f ms {}) :
    Takes function f (objectLexemes (ms.map NamedValue.toField)) := by
  refine takes_objectLexemes PendingFunction.step h fun s fuel ls more hend hobject => ?_
  have hname : s.name = some f.name := hend.name.of_nil.resolve_right And.left
  have hnodes : s.nodes.getD [] = f.nodes := hend.nodes.getD_eq
  simp [function, hobject, required, hname, hnodes, bind, Except.bind, pure, Except.pure]

/-! ## Graphs -/

/-- What the slots of a graph and the fields that are left have of the graph. -/
structure PendingGraph (g : SavedGraph) (ms : List NamedValue) (s : GraphSlots) : Prop where
  nodes : PendingList node "nodes" g.nodes ms s.nodes
  functions : PendingList function "functions" g.functions ms s.functions
  others : SkipsOthers ["nodes", "functions"] ms

theorem graphSlots_nodes (fuel : Nat) (s : GraphSlots) :
    graphSlots fuel "nodes" s =
      slot "nodes" s.nodes (list (node fuel) fuel) fun a => { s with nodes := some a } :=
  rfl

theorem graphSlots_functions (fuel : Nat) (s : GraphSlots) :
    graphSlots fuel "functions" s =
      slot "functions" s.functions (list (function fuel) fuel) fun a =>
        { s with functions := some a } :=
  rfl

/-- Each field of a graph fills its slot or is passed over. -/
theorem PendingGraph.step {g : SavedGraph} (m : NamedValue) (ms : List NamedValue) (s : GraphSlots)
    (h : PendingGraph g (m :: ms) s) :
    ∃ s', Fills graphSlots s m s' ∧ PendingGraph g ms s' := by
  rcases m with ⟨name, ls⟩
  rcases List.forall_mem_cons.mp h.others with ⟨hskips, hothers⟩
  by_cases hnodes : name = "nodes"
  · subst hnodes
    rcases h.nodes.fills fun fuel => graphSlots_nodes fuel s with ⟨hfills, hfilled⟩
    exact ⟨_, hfills, hfilled, h.functions.pass (by decide : "nodes" ≠ "functions"), hothers⟩
  by_cases hfunctions : name = "functions"
  · subst hfunctions
    rcases h.functions.fills fun fuel => graphSlots_functions fuel s with ⟨hfills, hfilled⟩
    exact ⟨_, hfills, h.nodes.pass hnodes, hfilled, hothers⟩
  · have hnone (fuel : Nat) : graphSlots fuel name s = none := by
      simp [graphSlots, hnodes, hfunctions]
    have hother : name ∉ ["nodes", "functions"] := by simp [hnodes, hfunctions]
    exact ⟨s, fills_of_none hnone (hskips hother), h.nodes.pass hnodes,
      h.functions.pass hfunctions, hothers⟩

/-- The same for a graph. -/
theorem PendingGraph.takes {g : SavedGraph} {ms : List NamedValue} (h : PendingGraph g ms {}) :
    Takes graph g (objectLexemes (ms.map NamedValue.toField)) := by
  refine takes_objectLexemes PendingGraph.step h fun s fuel ls more hend hobject => ?_
  have hnodes : s.nodes.getD [] = g.nodes := hend.nodes.getD_eq
  have hfunctions : s.functions.getD [] = g.functions := hend.functions.getD_eq
  simp [graph, hobject, hnodes, hfunctions, bind, Except.bind, pure, Except.pure]

/-! ## Characters -/

/-- The characters are cut into lexemes that are read as the value, whatever stands behind them. -/
structure Readable (read : Nat → Reader α) (a : α) (cs : List Char) : Prop where
  scans : Scans cs (Lexeme.scan cs)
  takes : Takes read a (Lexeme.scan cs)

theorem readable_text {s : String} {cs : List Char} (h : SpelledText s cs) :
    Readable (fun _ => text) s cs := by
  have hscans : Scans cs [.text (some s)] := fun rest _ => scan_spelledText_append h rest
  constructor <;> rw [hscans.scan_eq]
  · exact hscans
  · exact takes_text s

/-- A list can be read if its items can. -/
theorem readable_list {writtenAs : α → List Char → Prop}
    (hitem : ∀ a cs, writtenAs a cs → Readable read a cs) {as : List α} {cs : List Char}
    (h : ListWrittenAs writtenAs as cs) :
    Readable (fun fuel => list (read fuel) fuel) as cs := by
  rcases h with ⟨items, hitems, harray⟩
  have hscan : ∀ item ∈ items, Scans item (Lexeme.scan item) := by
    clear harray
    induction hitems with
    | nil => exact List.forall_mem_nil _
    | cons hwritten _ ih => exact List.forall_mem_cons.mpr ⟨(hitem _ _ hwritten).scans, ih⟩
  have hscans := scans_arrayOf harray hscan
  constructor <;> rw [hscans.scan_eq]
  · exact hscans
  · refine takes_list ?_
    rw [List.forall₂_map_right_iff]
    exact hitems.imp fun a cs hwritten => (hitem a cs hwritten).takes

/-- The field that a member of a record is. -/
def namedValue (m : NamedMember) : NamedValue :=
  (m.name, Lexeme.scan m.value)

theorem field_toMember (m : NamedMember) : m.toMember.field = (namedValue m).toField := by
  have hscans : Scans m.key [.text (some m.name)] :=
    fun rest _ => scan_spelledText_append m.spelled rest
  rw [Member.field, hscans.scan_eq]
  rfl

/-- A record can be read if its members can, however it is laid out. -/
theorem readable_record {record : Nat → Reader α} {a : α} {members : List NamedMember}
    {cs : List Char} (h : RecordOf members cs)
    (hvalues : ∀ m ∈ members, Scans m.value (Lexeme.scan m.value))
    (htakes : Takes record a (objectLexemes ((members.map namedValue).map NamedValue.toField))) :
    Readable record a cs := by
  have hkeys : ∀ m ∈ members.map NamedMember.toMember, IsText m.key := by
    rw [List.forall_mem_map]
    exact fun m _ => m.spelled.isText
  have hscans := scans_objectOf h hkeys (List.forall_mem_map.mpr hvalues)
  have hfields : (members.map NamedMember.toMember).map Member.field =
      (members.map namedValue).map NamedValue.toField := by
    rw [List.map_map, List.map_map]
    exact List.map_congr_left fun m _ => field_toMember m
  rw [hfields] at hscans
  constructor <;> rw [hscans.scan_eq]
  · exact hscans
  · exact htakes

variable {members : List NamedMember} {name : String} {holds : List Char → Prop}

/-- What is asked of the one member of a name holds of every member of the name. -/
theorem holds_of_once (h : Once name holds members) :
    ∀ m ∈ members, m.name = name → holds m.value := by
  rcases h with ⟨m, hfilter, hvalue⟩
  intro m' hmem hname
  have hsame : m' ∈ members.filter (·.name = name) :=
    List.mem_filter.mpr ⟨hmem, by simpa using hname⟩
  rw [hfilter, List.mem_singleton] at hsame
  exact hsame ▸ hvalue

theorem holds_of_onceUnlessEmpty {as : List α} (h : OnceUnlessEmpty name as holds members) :
    ∀ m ∈ members, m.name = name → holds m.value := by
  rcases h with honce | ⟨-, hnone⟩
  · exact holds_of_once honce
  · exact fun m hmem hname => absurd hname (hnone m hmem)

/-- A member that stands once is waited for until it comes. -/
theorem pending_of_once {a : α} {optional : Prop} (h : Once name holds members)
    (hread : ∀ cs, holds cs → Readable read a cs) :
    Pending read name a optional (members.map namedValue) none := by
  rcases h with ⟨m, hfilter, hvalue⟩
  have hname : m.name = name := by
    have hmem : m ∈ members.filter (·.name = name) := hfilter ▸ List.mem_singleton_self m
    simpa using (List.mem_filter.mp hmem).2
  have hmap : (members.map namedValue).filter (·.1 = name) =
      (members.filter (·.name = name)).map namedValue := List.filter_map
  rw [hfilter, List.map_singleton, namedValue, hname] at hmap
  exact .awaited hmap (hread _ hvalue).takes

/-- A list that may be left out is waited for, too, but need not come. -/
theorem pendingList_of_onceUnlessEmpty {as : List α} (h : OnceUnlessEmpty name as holds members)
    (hread : ∀ cs, holds cs → Readable (fun fuel => list (read fuel) fuel) as cs) :
    PendingList read name as (members.map namedValue) none := by
  rcases h with honce | ⟨hempty, hnone⟩
  · exact pending_of_once honce hread
  · exact .omitted hempty (List.forall_mem_map.mpr hnone)

theorem skipsOthers_of_othersFree {names : List String} (h : OthersFree names members) :
    SkipsOthers names (members.map namedValue) :=
  List.forall_mem_map.mpr fun m hmem hname => (h m hmem hname).skips.2

/-- The values of a record are cut if those of its fields are. -/
theorem scans_of_othersFree {names : List String} (h : OthersFree names members)
    (hnames : ∀ m ∈ members, m.name ∈ names → Scans m.value (Lexeme.scan m.value)) :
    ∀ m ∈ members, Scans m.value (Lexeme.scan m.value) := by
  intro m hmem
  by_cases hname : m.name ∈ names
  · exact hnames m hmem hname
  · exact (h m hmem hname).skips.1

/-! ## Records -/

/-- A node is read, however it is written. -/
theorem readable_node {n : GraphNode} {cs : List Char} (h : n.IsWrittenAs cs) :
    Readable node n cs := by
  rcases h with ⟨members, hmembers, hrecord⟩
  have hinputs {cs : List Char} (hwritten : ListWrittenAs SpelledText n.inputs cs) :=
    readable_list (fun _ _ => readable_text) hwritten
  have hpending : PendingNode n (members.map namedValue) {} := {
    name := pending_of_once hmembers.name fun _ => readable_text
    op := pending_of_once hmembers.op fun _ => readable_text
    inputs := pendingList_of_onceUnlessEmpty hmembers.inputs fun _ => hinputs
    others := skipsOthers_of_othersFree hmembers.others }
  refine readable_record hrecord (scans_of_othersFree hmembers.others ?_) hpending.takes
  intro m hmem hname
  simp only [List.mem_cons, List.not_mem_nil, or_false] at hname
  rcases hname with hname | hname | hname
  · exact (readable_text (holds_of_once hmembers.name m hmem hname)).scans
  · exact (readable_text (holds_of_once hmembers.op m hmem hname)).scans
  · exact (hinputs (holds_of_onceUnlessEmpty hmembers.inputs m hmem hname)).scans

/-- A function is read, however it is written. -/
theorem readable_function {f : GraphFunction} {cs : List Char} (h : f.IsWrittenAs cs) :
    Readable function f cs := by
  rcases h with ⟨members, hmembers, hrecord⟩
  have hnodes {cs : List Char} (hwritten : ListWrittenAs GraphNode.IsWrittenAs f.nodes cs) :=
    readable_list (fun _ _ => readable_node) hwritten
  have hpending : PendingFunction f (members.map namedValue) {} := {
    name := pending_of_once hmembers.name fun _ => readable_text
    nodes := pendingList_of_onceUnlessEmpty hmembers.nodes fun _ => hnodes
    others := skipsOthers_of_othersFree hmembers.others }
  refine readable_record hrecord (scans_of_othersFree hmembers.others ?_) hpending.takes
  intro m hmem hname
  simp only [List.mem_cons, List.not_mem_nil, or_false] at hname
  rcases hname with hname | hname
  · exact (readable_text (holds_of_once hmembers.name m hmem hname)).scans
  · exact (hnodes (holds_of_onceUnlessEmpty hmembers.nodes m hmem hname)).scans

/-- A graph is read, however its record is written. -/
theorem readable_graph {g : SavedGraph} {members : List NamedMember} {cs : List Char}
    (hmembers : g.Members members) (hrecord : RecordOf members cs) : Readable graph g cs := by
  have hnodes {cs : List Char} (hwritten : ListWrittenAs GraphNode.IsWrittenAs g.nodes cs) :=
    readable_list (fun _ _ => readable_node) hwritten
  have hfunctions {cs : List Char}
      (hwritten : ListWrittenAs GraphFunction.IsWrittenAs g.functions cs) :=
    readable_list (fun _ _ => readable_function) hwritten
  have hpending : PendingGraph g (members.map namedValue) {} := {
    nodes := pendingList_of_onceUnlessEmpty hmembers.nodes fun _ => hnodes
    functions := pendingList_of_onceUnlessEmpty hmembers.functions fun _ => hfunctions
    others := skipsOthers_of_othersFree hmembers.others }
  refine readable_record hrecord (scans_of_othersFree hmembers.others ?_) hpending.takes
  intro m hmem hname
  simp only [List.mem_cons, List.not_mem_nil, or_false] at hname
  rcases hname with hname | hname
  · exact (hnodes (holds_of_onceUnlessEmpty hmembers.nodes m hmem hname)).scans
  · exact (hfunctions (holds_of_onceUnlessEmpty hmembers.functions m hmem hname)).scans

end GraphReader

namespace SavedGraph

open GraphReader

/-- However a graph is written, it is what is read. -/
theorem parse_eq_of_isWrittenAs {g : SavedGraph} {text : String} (h : g.IsWrittenAs text.toList) :
    parse text = .ok g := by
  rcases h with ⟨front, record, behind, members, hfront, hbehind, hmembers, hrecord, htext⟩
  have hgraph := readable_graph hmembers hrecord
  have hscan : Lexeme.scan text.toList = Lexeme.scan record := by
    have hblank : Apart behind := by
      have happend := apart_append_of_isBlank hbehind apart_nil
      rwa [List.append_nil] at happend
    have hend : Lexeme.scan behind = [] := by
      have happend := scan_append_of_isBlank hbehind []
      rw [List.append_nil] at happend
      rw [happend, Lexeme.scan]
    rw [htext, scan_append_of_isBlank hfront, hgraph.scans behind hblank, hend, List.append_nil]
  have hread := hgraph.takes.reads (fuelFor (Lexeme.scan record)) [] (by rw [fuelFor]; omega)
  rw [List.append_nil] at hread
  rw [parse, hscan]
  simp only [hread]

/-- A graph is read from every text that writes it, and its own document is one of them. -/
theorem parse_of_writing (g : SavedGraph) :
    (∀ text : String, g.IsWrittenAs text.toList → parse text = .ok g) ∧
      g.IsWrittenAs g.toJson.compact.toList ∧ parse g.toJson.compact = .ok g :=
  ⟨fun _ => parse_eq_of_isWrittenAs, g.isWrittenAs_compact,
    parse_eq_of_isWrittenAs g.isWrittenAs_compact⟩

/-- The text is read, with a member that is passed over and escapes in both texts. -/
theorem parse_smilingText :
    smiling.IsWrittenAs smilingText.toList ∧ parse smilingText = .ok smiling :=
  ⟨isWrittenAs_smilingText, (parse_of_writing smiling).1 smilingText isWrittenAs_smilingText⟩

end SavedGraph

end LayerNet
