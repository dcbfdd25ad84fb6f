import Mathlib.Data.List.Forall2
import LayerNet.Proofs.Reconstruction.Course
import LayerNet.Proofs.Reconstruction.Functions

/-!
# References to nodes

A reference is a name as it stands or with a `^` in front, a colon and an output behind, or both.
The reconstruction looks at none of that: names of nodes and operands are cleaned before anything is
done with them.  Two graphs that differ only in how they write references are worked on in the same
steps, with the same session at each of them.

Main definitions:

- `Reference`: the ways to write a reference to a name.
- `GraphNode.MeansSame`, `SavedGraph.MeansSame`: nodes and graphs that differ only in that.
- `Stage.MeansSame`: states of the work on two such lists that go together.

Main results:

- `cleanName_eq_iff`: there are no other ways.
- `Stage.MeansSame.step`: a step in one list is one in the other.
- `SavedGraph.reconstruct_of_meansSame`: the reconstruction is the same.
-/

namespace LayerNet

open Relation

/-! ## Ways to write a reference -/

/-- The ways to write a reference to a name. -/
inductive Reference (name : String) : String → Prop where
  | plain : Reference name name
  | order : Reference name ("^" ++ name)
  | output (slot : String) : Reference name (name ++ ":" ++ slot)
  | orderOutput (slot : String) : Reference name ("^" ++ name ++ ":" ++ slot)

theorem takeWhile_colon_eq_iff {cs name : List Char} (hcolon : ':' ∉ name) :
    cs.takeWhile (· != ':') = name ↔ cs = name ∨ ∃ slot, cs = name ++ ':' :: slot := by
  constructor
  · rintro rfl
    have hsplit : cs.takeWhile (· != ':') ++ cs.dropWhile (· != ':') = cs :=
      List.takeWhile_append_dropWhile
    have hstop := List.head?_dropWhile_not (· != ':') cs
    cases hrest : cs.dropWhile (· != ':') with
    | nil =>
        rw [hrest, List.append_nil] at hsplit
        exact Or.inl hsplit.symm
    | cons c slot =>
        obtain rfl : c = ':' := by simpa [hrest] using hstop
        exact Or.inr ⟨slot, by rw [← hrest, hsplit]⟩
  · have hkept : ∀ c ∈ name, (c != ':') = true := by
      intro c hc
      rw [bne_iff_ne]
      rintro rfl
      exact hcolon hc
    rintro (rfl | ⟨slot, rfl⟩)
    · exact List.takeWhile_eq_self_iff.mpr hkept
    · rw [List.takeWhile_append_of_pos hkept]
      simp

theorem cleanChars_of_head?_ne {cs : List Char} (h : cs.head? ≠ some '^') :
    cleanChars cs = cs.takeWhile (· != ':') := by
  unfold cleanChars
  split
  · simp at h
  · rfl

/-- A name without a colon and without `^` in front is what just the references to it are cleaned
to. -/
theorem cleanName_eq_iff {name reference : String} (hcolon : ':' ∉ name.toList)
    (hcaret : name.toList.head? ≠ some '^') :
    cleanName reference = name ↔ Reference name reference := by
  rw [cleanName, ← String.toList_inj, String.toList_ofList]
  constructor
  · intro h
    by_cases hfront : reference.toList.head? = some '^'
    · rcases List.head?_eq_some_iff.mp hfront with ⟨cs, hcs⟩
      rw [hcs, cleanChars, takeWhile_colon_eq_iff hcolon] at h
      rcases h with rfl | ⟨slot, rfl⟩
      · have hreference : reference = "^" ++ name := by simp [← String.toList_inj, hcs]
        exact hreference ▸ .order
      · have hreference : reference = "^" ++ name ++ ":" ++ String.ofList slot := by
          simp [← String.toList_inj, hcs]
        exact hreference ▸ .orderOutput _
    · rw [cleanChars_of_head?_ne hfront, takeWhile_colon_eq_iff hcolon] at h
      rcases h with heq | ⟨slot, heq⟩
      · exact String.toList_inj.mp heq ▸ .plain
      · have hreference : reference = name ++ ":" ++ String.ofList slot := by
          simp [← String.toList_inj, heq]
        exact hreference ▸ .output _
  · have hbehind (slot : String) : (name ++ ":" ++ slot).toList.head? ≠ some '^' := by
      cases hname : name.toList with
      | nil => simp [hname]
      | cons c cs =>
          rw [hname] at hcaret
          simpa [hname] using hcaret
    rintro (_ | _ | slot | slot)
    · rw [cleanChars_of_head?_ne hcaret, takeWhile_colon_eq_iff hcolon]
      exact Or.inl rfl
    · rw [String.toList_append]
      exact (takeWhile_colon_eq_iff hcolon).mpr (Or.inl rfl)
    · rw [cleanChars_of_head?_ne (hbehind slot), takeWhile_colon_eq_iff hcolon]
      exact Or.inr ⟨slot.toList, by simp⟩
    · rw [String.append_assoc, String.append_assoc, String.toList_append]
      exact (takeWhile_colon_eq_iff hcolon).mpr (Or.inr ⟨slot.toList, by simp⟩)

/-! ## Nodes that mean the same -/

/-- Whether two nodes differ at most in the way their names and operands are written. -/
structure GraphNode.MeansSame (node other : GraphNode) : Prop where
  op_eq : node.op = other.op
  cleanedName_eq : node.cleanedName = other.cleanedName
  inputs_eq : node.inputs.map cleanName = other.inputs.map cleanName

/-- In lists that are related place by place, the first elements with a property are related if the
property is the same of related elements. -/
theorem rel_find? {α β : Type*} {related : α → β → Prop} {p : α → Bool} {q : β → Bool} {l : List α}
    {l' : List β} (h : List.Forall₂ related l l') (hpq : ∀ {a b}, related a b → p a = q b) :
    Option.Rel related (l.find? p) (l'.find? q) := by
  induction h with
  | nil => exact .none
  | @cons a b l l' hfirst _ ih =>
      rw [List.find?_cons, List.find?_cons, hpq hfirst]
      cases q b with
      | true => exact .some hfirst
      | false => exact ih

section Lists

variable {options : ReconstructionOptions} {nodes nodes' : List GraphNode}

/-- The nodes that are found for a name mean the same. -/
theorem rel_nodeOf? (hnodes : List.Forall₂ GraphNode.MeansSame nodes nodes') (name : String) :
    Option.Rel GraphNode.MeansSame (options.nodeOf? nodes name) (options.nodeOf? nodes' name) := by
  unfold ReconstructionOptions.nodeOf?
  split
  · exact .none
  · refine rel_find? (List.rel_reverse hnodes) fun hsame => ?_
    rw [hsame.cleanedName_eq]

/-- Whether two operands are had in the same way. -/
inductive Resolution.MeansSame : Resolution → Resolution → Prop where
  | identifier (text : String) : MeansSame (.identifier text) (.identifier text)
  | enter {node other : GraphNode} (h : node.MeansSame other) :
      MeansSame (.enter node) (.enter other)
  | handle : MeansSame .handle .handle
  | placeholder : MeansSame .placeholder .placeholder

/-- An operand is had in the same way in both lists, however it is written. -/
theorem Session.exists_resolve_eq {s : Session}
    (hnodes : List.Forall₂ GraphNode.MeansSame nodes nodes') {name name' : String}
    (hname : name' = name) {resolution : Resolution}
    (hresolve : s.resolve options nodes name = resolution) :
    ∃ resolution', s.resolve options nodes' name' = resolution' ∧
      resolution.MeansSame resolution' := by
  subst hname hresolve
  refine ⟨_, rfl, ?_⟩
  rw [resolve, resolve]
  cases s.find? name' with
  | some found => exact .identifier _
  | none =>
      dsimp only
      split
      · exact .placeholder
      · have hnode : Option.Rel GraphNode.MeansSame (options.nodeOf? nodes name')
            (options.nodeOf? nodes' name') := rel_nodeOf? hnodes name'
        revert hnode
        generalize options.nodeOf? nodes name' = found
        generalize options.nodeOf? nodes' name' = found'
        rintro (hsame | _)
        · exact .enter hsame
        · dsimp only
          split
          · exact .handle
          · exact .placeholder

/-! ## Work on lists that mean the same -/

/-- Whether two frames differ at most in the way that references are written. -/
structure Frame.MeansSame (f g : Frame) : Prop where
  node : f.node.MeansSame g.node
  pending_eq : f.pending.map cleanName = g.pending.map cleanName
  arguments_eq : f.arguments = g.arguments
  unresolved_eq : f.unresolved = g.unresolved

theorem Frame.meansSame_start {node other : GraphNode} (h : node.MeansSame other) :
    (Frame.start node).MeansSame (Frame.start other) :=
  ⟨h, h.inputs_eq, rfl, rfl⟩

section Frames

variable {f g : Frame} {operand : String} {pending : List String}

theorem Frame.MeansSame.pending_eq_nil (h : f.MeansSame g) (hpending : f.pending = []) :
    g.pending = [] := by
  have heq := h.pending_eq
  rw [hpending] at heq
  exact List.map_eq_nil_iff.mp heq.symm

/-- The next operands of the two frames have one name. -/
theorem Frame.MeansSame.exists_pending (h : f.MeansSame g)
    (hpending : f.pending = operand :: pending) :
    ∃ operand' pending', g.pending = operand' :: pending' ∧ cleanName operand' = cleanName operand ∧
      pending.map cleanName = pending'.map cleanName := by
  have heq := h.pending_eq
  rw [hpending, List.map_cons] at heq
  rcases List.map_eq_cons_iff.mp heq.symm with ⟨operand', pending', hg, hname, hrest⟩
  exact ⟨operand', pending', hg, hname, hrest.symm⟩

theorem Frame.MeansSame.withArgument (h : f.MeansSame g) (argument : String)
    {pending' : List String} (hpending : pending.map cleanName = pending'.map cleanName) :
    (f.withArgument argument pending).MeansSame (g.withArgument argument pending') :=
  ⟨h.node, hpending, congrArg (· ++ [argument]) h.arguments_eq, h.unresolved_eq⟩

theorem Frame.MeansSame.withPlaceholder (h : f.MeansSame g) (name : String)
    {pending' : List String} (hpending : pending.map cleanName = pending'.map cleanName) :
    (f.withPlaceholder name pending).MeansSame (g.withPlaceholder name pending') :=
  ⟨h.node, hpending, congrArg (· ++ [placeholder name]) h.arguments_eq,
    congrArg (· ++ [name]) h.unresolved_eq⟩

theorem Frame.MeansSame.finish_eq (h : f.MeansSame g) (s : Session) : s.finish f = s.finish g := by
  simp only [Session.finish, h.node.cleanedName_eq, h.node.op_eq, h.arguments_eq, h.unresolved_eq]

end Frames

namespace Stage

/-- Whether two states of the work on lists have the same session and differ at most in the way that
references are written. -/
structure MeansSame (st other : Stage) : Prop where
  roots : List.Forall₂ GraphNode.MeansSame st.roots other.roots
  session_eq : st.session = other.session
  stack : List.Forall₂ Frame.MeansSame st.stack other.stack

variable {st other next : Stage}

/-- A step in the work on one list is one in the work on the other. -/
theorem MeansSame.step (h : st.MeansSame other)
    (hnodes : List.Forall₂ GraphNode.MeansSame nodes nodes') (hstep : Step options nodes st next) :
    ∃ next', Step options nodes' other next' ∧ next.MeansSame next' := by
  obtain ⟨roots', s, stack'⟩ := other
  obtain ⟨hroots, hsession, hstack⟩ := h
  cases hstep with
  | skip hdone =>
      cases hsession
      cases hstack
      cases hroots with
      | cons hroot hroots =>
          rw [hroot.cleanedName_eq] at hdone
          exact ⟨_, .skip hdone, hroots, rfl, .nil⟩
  | root hinternal hnew =>
      cases hsession
      cases hstack
      cases hroots with
      | cons hroot hroots =>
          rw [hroot.cleanedName_eq] at hinternal hnew
          refine ⟨_, .root hinternal hnew, hroots, ?_, .cons (Frame.meansSame_start hroot) .nil⟩
          rw [hroot.cleanedName_eq]
  | finish hpending =>
      cases hsession
      cases hstack with
      | cons hf hrest =>
          exact ⟨_, .finish (hf.pending_eq_nil hpending), hroots, hf.finish_eq _, hrest⟩
  | identifier hpending hresolve =>
      cases hsession
      cases hstack with
      | cons hf hrest =>
          rcases hf.exists_pending hpending with ⟨operand', pending', hg, hname, hpending'⟩
          rcases Session.exists_resolve_eq hnodes hname hresolve with ⟨_, hresolve', hsame⟩
          cases hsame
          exact ⟨_, .identifier hg hresolve', hroots, rfl,
            .cons (hf.withArgument _ hpending') hrest⟩
  | handle hpending hresolve =>
      cases hsession
      cases hstack with
      | cons hf hrest =>
          rcases hf.exists_pending hpending with ⟨operand', pending', hg, hname, hpending'⟩
          rcases Session.exists_resolve_eq hnodes hname hresolve with ⟨_, hresolve', hsame⟩
          cases hsame
          refine ⟨_, .handle hg hresolve', hroots, ?_, .cons ?_ hrest⟩
          · rw [hname]
          · rw [hname]
            exact hf.withArgument _ hpending'
  | placeholder hpending hresolve =>
      cases hsession
      cases hstack with
      | cons hf hrest =>
          rcases hf.exists_pending hpending with ⟨operand', pending', hg, hname, hpending'⟩
          rcases Session.exists_resolve_eq hnodes hname hresolve with ⟨_, hresolve', hsame⟩
          cases hsame
          refine ⟨_, .placeholder hg hresolve', hroots, rfl, .cons ?_ hrest⟩
          rw [hname]
          exact hf.withPlaceholder _ hpending'
  | enter hpending hresolve =>
      cases hsession
      cases hstack with
      | cons hf hrest =>
          rcases hf.exists_pending hpending with ⟨operand', pending', hg, hname, hpending'⟩
          rcases Session.exists_resolve_eq hnodes hname hresolve with ⟨_, hresolve', hsame⟩
          cases hsame with
          | enter hnode =>
              refine ⟨_, .enter hg hresolve', hroots, ?_, .cons (Frame.meansSame_start hnode) ?_⟩
              · rw [hname]
              · exact .cons hf hrest

/-- So it is with any number of steps. -/
theorem MeansSame.steps (h : st.MeansSame other)
    (hnodes : List.Forall₂ GraphNode.MeansSame nodes nodes')
    (hsteps : Steps options nodes st next) :
    ∃ next', Steps options nodes' other next' ∧ next.MeansSame next' := by
  induction hsteps with
  | refl => exact ⟨other, .refl, h⟩
  | tail _ hstep ih =>
      rcases ih with ⟨middle', hsteps', hmiddle⟩
      rcases hmiddle.step hnodes hstep with ⟨next', hstep', hnext⟩
      exact ⟨next', hsteps'.tail hstep', hnext⟩

/-- The work on two lists that mean the same ends with the same session. -/
theorem defineAll_eq_of_meansSame (hnodes : List.Forall₂ GraphNode.MeansSame nodes nodes')
    (s : Session) : s.defineAll options nodes = s.defineAll options nodes' := by
  have hstart : MeansSame ⟨nodes, s, []⟩ ⟨nodes', s, []⟩ := ⟨hnodes, rfl, .nil⟩
  rcases hstart.steps hnodes (steps_defineAll s) with
    ⟨⟨roots, s', stack⟩, hsteps, hroots, hsession, hstack⟩
  cases hroots
  cases hsession
  cases hstack
  have hend := outcome_eq_of_steps hsteps
  rw [outcome, outcome, Session.run, Session.run] at hend
  exact hend.symm

end Stage

/-- So does the work on several lists, one after the other. -/
theorem Session.defineLists_eq_of_meansSame {lists lists' : List (List GraphNode)}
    (hlists : List.Forall₂ (List.Forall₂ GraphNode.MeansSame) lists lists') (s : Session) :
    Session.defineLists options s lists = Session.defineLists options s lists' := by
  induction hlists generalizing s with
  | nil => rfl
  | cons hnodes _ ih =>
      rw [defineLists, List.foldl_cons, Stage.defineAll_eq_of_meansSame hnodes]
      exact ih _

end Lists

/-! ## Graphs that mean the same -/

namespace SavedGraph

/-- Whether two graphs differ at most in the way that the names and the operands of their nodes are
written. -/
structure MeansSame (graph other : SavedGraph) : Prop where
  nodes : List.Forall₂ GraphNode.MeansSame graph.nodes other.nodes
  functions : List.Forall₂
    (fun f g => f.name = g.name ∧ List.Forall₂ GraphNode.MeansSame f.nodes g.nodes)
    graph.functions other.functions

/-- The reconstruction is the same however the names and operands of nodes are written: nothing is
looked at but what they are cleaned to, and that is the name in a reference.  A name without a colon
and without `^` in front can be written in just those ways. -/
theorem reconstruct_of_meansSame {graph other : SavedGraph} (h : graph.MeansSame other)
    (options : ReconstructionOptions) :
    graph.reconstruct options = other.reconstruct options ∧
      graph.statements options = other.statements options ∧
      ∀ name : String, ':' ∉ name.toList → name.toList.head? ≠ some '^' →
        ∀ reference, cleanName reference = name ↔ Reference name reference := by
  have hlists : List.Forall₂ (List.Forall₂ GraphNode.MeansSame) (graph.lists options)
      (other.lists options) := forall₂_lists h.nodes h.functions
  have hmain : graph.mainSession options = other.mainSession options :=
    Stage.defineAll_eq_of_meansSame h.nodes .empty
  have hfull : graph.fullSession options = other.fullSession options := by
    rw [fullSession_eq_defineLists, fullSession_eq_defineLists]
    exact Session.defineLists_eq_of_meansSame hlists .empty
  have hreconstruct : graph.reconstruct options = other.reconstruct options := by
    rw [reconstruct, reconstruct, allVariables, allVariables, hmain, hfull]
  refine ⟨hreconstruct, ?_, fun name hcolon hcaret reference => cleanName_eq_iff hcolon hcaret⟩
  rw [statements, statements, hreconstruct]

/-- A graph with names as they stand: a node of the main graph, a handle, and a node that refers to
itself. -/
def bareReferences : SavedGraph where
  nodes := [⟨"x", "Placeholder", []⟩]
  functions := [⟨"__inference_learn_1", [⟨"step", "AddN", ["x", "w_resource", "step"]⟩]⟩]

/-- The same graph with orders and outputs. -/
def fullReferences : SavedGraph where
  nodes := [⟨"^x", "Placeholder", []⟩]
  functions :=
    [⟨"__inference_learn_1", [⟨"step:0", "AddN", ["x:output:0", "w_resource:0", "^step:1"]⟩]⟩]

theorem meansSame_fullReferences : bareReferences.MeansSame fullReferences where
  nodes := .cons ⟨rfl, by decide, by decide⟩ .nil
  functions := .cons ⟨rfl, .cons ⟨rfl, by decide, by decide⟩ .nil⟩ .nil

theorem reconstruct_fullReferences : bareReferences.MeansSame fullReferences ∧
    bareReferences.reconstruct {} = fullReferences.reconstruct {} ∧
    bareReferences.statements {} = fullReferences.statements {} := by
  have hsame := reconstruct_of_meansSame meansSame_fullReferences {}
  exact ⟨meansSame_fullReferences, hsame.1, hsame.2.1⟩

end SavedGraph
end LayerNet
