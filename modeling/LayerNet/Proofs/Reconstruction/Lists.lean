import LayerNet.Proofs.Reconstruction.Invariant

/-!
# The work on lists of nodes

What the work on a list leaves behind, and so the work on several lists one after another: every
node that is not an internal call has a variable, and every name that has got one is that of such a
node or of a resource among the operands of a node that was declared.

Main definitions:

- `Session.Settled`: how sessions are between lists.
- `Session.Builds`, `Session.BuildsAmong`: the nodes that are declared.
- `Session.Accounted`: where a name that has a variable comes from.
- `SavedGraph.lists`: the lists of a graph that are worked on.

Main results:

- `Session.Settled.mem_places_defineLists`: the names of all variables.
- `Session.Settled.written_defineLists`: what the variables are made from.
-/

namespace LayerNet

/-- In lists that are related place by place, every element of the first one is related to one of
the second. -/
theorem exists_of_forall₂ {α β : Type*} {related : α → β → Prop} {l : List α} {l' : List β}
    (h : List.Forall₂ related l l') {a : α} (ha : a ∈ l) : ∃ b ∈ l', related a b := by
  induction h with
  | nil => exact absurd ha List.not_mem_nil
  | cons hfirst _ ih =>
      rcases List.mem_cons.mp ha with rfl | ha
      · exact ⟨_, List.mem_cons_self, hfirst⟩
      · rcases ih ha with ⟨b, hb, hab⟩
        exact ⟨b, List.mem_cons_of_mem _ hb, hab⟩

namespace Session

open Stage

/-- How a session is between lists: coherent, and without names in progress. -/
structure Settled (s : Session) : Prop where
  coherent : s.Coherent
  idle : ∀ name, name ∉ s.inProgress

theorem settled_empty : empty.Settled where
  coherent := coherent_empty
  idle := by simp [empty]

/-! ## Variables are kept -/

section Kept

variable {options : ReconstructionOptions} {nodes : List GraphNode} {st next : Stage}

/-- A step leaves the variables as they are. -/
theorem prefix_of_step (h : Step options nodes st next) :
    st.session.toList <+: next.session.toList := by
  cases h with
  | @finish roots s f rest hpending => exact (s.leave f.node.cleanedName).prefix_declare
  | handle hpending hresolve => exact prefix_declare
  | _ => exact List.prefix_refl _

theorem prefix_of_steps (h : Steps options nodes st next) :
    st.session.toList <+: next.session.toList := by
  induction h with
  | refl => exact List.prefix_refl _
  | tail _ hstep ih => exact ih.trans (prefix_of_step hstep)

end Kept

/-! ## One list -/

section List

variable (options : ReconstructionOptions) (nodes : List GraphNode) (start : Session)

/-- Whether a node is declared in the work on a list: at some stage it is on top of the stack and
all its operands were looked at. -/
def Builds (node : GraphNode) : Prop :=
  ∃ (roots : List GraphNode) (s : Session) (f : Frame) (rest : List Frame),
    Steps options nodes ⟨nodes, start, []⟩ ⟨roots, s, f :: rest⟩ ∧ f.pending = [] ∧ f.node = node

/-- Whether a name is that of a node of a list which is not an internal call. -/
def NamesNode (name : String) : Prop :=
  ∃ node, options.Wants nodes node ∧ node.cleanedName = name

/-- Whether a name is that of a resource and among the operands of a node of some kind. -/
def NamesResource (kind : GraphNode → Prop) (name : String) : Prop :=
  Text.endsWith resourceSuffix name = true ∧ ∃ node, kind node ∧ name ∈ node.inputs.map cleanName

/-- Whether a name is accounted for: it had a variable at the start, or it is that of a node of the
list, or of a resource among the operands of a node of some kind. -/
def Accounted (kind : GraphNode → Prop) (name : String) : Prop :=
  name ∈ start.places ∨ NamesNode options nodes name ∨ NamesResource kind name

variable {options nodes start} {name : String}

theorem Accounted.mono {kind other : GraphNode → Prop} (h : Accounted options nodes start kind name)
    (himp : ∀ node, kind node → other node) : Accounted options nodes start other name := by
  refine h.imp_right (Or.imp_right ?_)
  rintro ⟨hresource, node, hnode, hoperand⟩
  exact ⟨hresource, node, himp node hnode, hoperand⟩

/-- The work on a list can begin. -/
theorem Settled.sound_start (h : start.Settled) : Sound options nodes start ⟨nodes, start, []⟩ where
  coherent := h.coherent
  start_places _ := id
  inProgress_iff name := by simp [h.idle, stackNames, stackNodes]
  stack_nodup := List.nodup_nil
  stack_new := by simp [stackNames, stackNodes]
  stack_wants := by simp [stackNodes]
  isWay := List.isChain_nil
  roots_mem _ := id
  covered _ hwants := Or.inl hwants.1
  looked := by simp
  written before v after hlist := by simp at hlist

theorem Settled.sound_defineAll (h : start.Settled) :
    Sound options nodes start ⟨[], start.defineAll options nodes, []⟩ :=
  h.sound_start.steps (steps_defineAll start)

theorem Settled.defineAll (h : start.Settled) : (start.defineAll options nodes).Settled where
  coherent := h.sound_defineAll.coherent
  idle name := by simp [h.sound_defineAll.inProgress_iff, stackNames, stackNodes]

/-- On the way every name is accounted for, resources by nodes on the stack or declared ones. -/
theorem Settled.accounted (h : start.Settled) {st : Stage}
    (hsteps : Steps options nodes ⟨nodes, start, []⟩ st) :
    ∀ name ∈ st.session.places, Accounted options nodes start
      (fun node => node ∈ stackNodes st.stack ∨ start.Builds options nodes node) name := by
  induction hsteps with
  | refl => exact fun name hname => Or.inl hname
  | @tail st next hsteps hstep ih =>
      have hsound : Sound options nodes start st := h.sound_start.steps hsteps
      have hkept (hkinds : ∀ node ∈ stackNodes st.stack,
          node ∈ stackNodes next.stack ∨ start.Builds options nodes node) :
          ∀ name ∈ st.session.places, Accounted options nodes start
            (fun node => node ∈ stackNodes next.stack ∨ start.Builds options nodes node) name :=
        fun name hname => (ih name hname).mono fun node hnode => hnode.elim (hkinds node) Or.inr
      -- names come only with `finish` and `handle`; the other steps at most put a node on the stack
      cases hstep with
      | skip hdone => exact ih
      | root hinternal hnew => exact hkept (by simp [stackNodes])
      | @finish roots s f rest hpending =>
          intro name hname
          rcases Session.mem_places_declare.mp hname with rfl | hname
          · exact Or.inr (Or.inl ⟨f.node, hsound.stack_wants _ List.mem_cons_self, rfl⟩)
          · refine hkept (fun node hnode => ?_) name hname
            rcases List.mem_cons.mp hnode with rfl | hnode
            · exact Or.inr ⟨roots, s, f, rest, hsteps, hpending, rfl⟩
            · exact Or.inl hnode
      | identifier hpending hresolve => exact hkept fun node hnode => Or.inl hnode
      | placeholder hpending hresolve => exact hkept fun node hnode => Or.inl hnode
      | @handle roots s f rest operand pending hpending hresolve =>
          intro name hname
          rcases Session.mem_places_declare.mp hname with rfl | hname
          · cases resolves_of_resolve_eq hresolve with
            | handle hnew hprogress hnode hresource =>
                exact Or.inr (Or.inr ⟨hresource, f.node, Or.inl List.mem_cons_self,
                  (hsound.looked f List.mem_cons_self).operand_mem hpending⟩)
          · exact hkept (fun node hnode => Or.inl hnode) name hname
      | enter hpending hresolve =>
          exact hkept fun node hnode => Or.inl (List.mem_cons_of_mem _ hnode)

/-- A node of the list that is not an internal call has a variable in the end. -/
theorem Settled.mem_places_of_wants (h : start.Settled) {node : GraphNode}
    (hwants : options.Wants nodes node) :
    node.cleanedName ∈ (start.defineAll options nodes).places := by
  rcases h.sound_defineAll.covered node hwants with hroot | hplace | hstack
  · exact absurd hroot List.not_mem_nil
  · exact hplace
  · exact absurd hstack List.not_mem_nil

/-- An operand that is named like a resource has a variable in the end, whatever the answer to
it. -/
theorem Settled.mem_places_of_answers (h : start.Settled) {before : List Variable}
    {node : GraphNode} {argument : Argument}
    (hanswer : Answers options nodes start before node name argument)
    (hbefore : before ⊆ (start.defineAll options nodes).toList)
    (hresource : Text.endsWith resourceSuffix name = true) :
    name ∈ (start.defineAll options nodes).places := by
  cases hanswer with
  | identifier hmem hname =>
      exact h.defineAll.coherent.mem_places_iff.mpr ⟨_, hbefore hmem, hname⟩
  | cycle hwants hname hway => exact hname ▸ h.mem_places_of_wants hwants
  | missing hnode hnot hnew => exact absurd (hresource.symm.trans hnot) (by decide)

/-- What is declared is a node of the list that is not an internal call and had no variable at the
start. -/
theorem Settled.wants_of_builds (h : start.Settled) {node : GraphNode}
    (hbuilds : start.Builds options nodes node) :
    options.Wants nodes node ∧ node.cleanedName ∉ start.places := by
  rcases hbuilds with ⟨roots, s, f, rest, hsteps, hpending, rfl⟩
  have hsound : Sound options nodes start ⟨roots, s, f :: rest⟩ := h.sound_start.steps hsteps
  refine ⟨hsound.stack_wants f.node List.mem_cons_self, fun hmem => ?_⟩
  exact hsound.stack_new _ List.mem_cons_self (hsound.start_places _ hmem)

/-- So have the operands of declared nodes that are named like resources. -/
theorem Settled.mem_places_of_builds (h : start.Settled)
    (hname : NamesResource (start.Builds options nodes) name) :
    name ∈ (start.defineAll options nodes).places := by
  rcases hname with ⟨hresource, node, ⟨roots, s, f, rest, hsteps, hpending, rfl⟩, hoperand⟩
  have hsound : Sound options nodes start ⟨roots, s, f :: rest⟩ := h.sound_start.steps hsteps
  rcases hsound.looked f List.mem_cons_self with ⟨seen, arguments, hinputs, hanswers, -, -⟩
  rw [hpending, List.append_nil] at hinputs
  rw [hinputs] at hoperand
  rcases exists_of_forall₂ hanswers hoperand with ⟨argument, -, hanswer⟩
  have hkept : s.toList <+: (start.defineAll options nodes).toList :=
    prefix_of_steps (steps_end_of_steps hsteps)
  exact h.mem_places_of_answers hanswer hkept.subset hresource

/-- The names that have variables after the work on a list. -/
theorem Settled.mem_places_defineAll (h : start.Settled) :
    name ∈ (start.defineAll options nodes).places ↔
      Accounted options nodes start (start.Builds options nodes) name := by
  constructor
  · intro hname
    refine (h.accounted (steps_defineAll start) name hname).mono fun node hnode => ?_
    exact hnode.resolve_left List.not_mem_nil
  · rintro (hstart | ⟨node, hwants, rfl⟩ | hresource)
    · exact h.sound_defineAll.start_places name hstart
    · exact h.mem_places_of_wants hwants
    · exact h.mem_places_of_builds hresource

/-- The work on a list leaves the variables as they are. -/
theorem prefix_defineAll : start.toList <+: (start.defineAll options nodes).toList :=
  prefix_of_steps (steps_defineAll start)

/-- A variable that the work on a list brings is made from a node of it or a name, when there were
only variables that are there in the end. -/
theorem Settled.exists_written_defineAll (h : start.Settled) {v : Variable}
    (hv : v ∈ (start.defineAll options nodes).toList) : v ∈ start.toList ∨
      ∃ before ⊆ (start.defineAll options nodes).toList,
        Written options nodes start before v :=
  h.sound_defineAll.written.exists_before prefix_defineAll hv

end List

/-! ## Several lists -/

section Lists

variable (options : ReconstructionOptions)

/-- Declares the nodes of some lists, in order. -/
def defineLists (start : Session) (lists : List (List GraphNode)) : Session :=
  lists.foldl (defineAll options) start

/-- Whether a node is declared in the work on some lists. -/
inductive BuildsAmong : Session → List (List GraphNode) → GraphNode → Prop where
  | here {start : Session} {nodes : List GraphNode} {lists : List (List GraphNode)}
      {node : GraphNode} (h : start.Builds options nodes node) :
      BuildsAmong start (nodes :: lists) node
  | later {start : Session} {nodes : List GraphNode} {lists : List (List GraphNode)}
      {node : GraphNode} (h : BuildsAmong (start.defineAll options nodes) lists node) :
      BuildsAmong start (nodes :: lists) node

variable {options} {start : Session} {lists : List (List GraphNode)} {name : String}

theorem buildsAmong_cons_iff {nodes : List GraphNode} {node : GraphNode} :
    BuildsAmong options start (nodes :: lists) node ↔ start.Builds options nodes node ∨
      BuildsAmong options (start.defineAll options nodes) lists node := by
  constructor
  · rintro (h | h)
    · exact Or.inl h
    · exact Or.inr h
  · rintro (h | h)
    · exact .here h
    · exact .later h

theorem Settled.defineLists (h : start.Settled) : (defineLists options start lists).Settled := by
  induction lists generalizing start with
  | nil => exact h
  | cons nodes lists ih => exact ih h.defineAll

theorem prefix_defineLists : start.toList <+: (defineLists options start lists).toList := by
  induction lists generalizing start with
  | nil => exact List.prefix_refl _
  | cons nodes lists ih => exact prefix_defineAll.trans ih

/-- The names that have variables after the work on some lists. -/
theorem Settled.mem_places_defineLists (h : start.Settled) :
    name ∈ (Session.defineLists options start lists).places ↔ name ∈ start.places ∨
      (∃ nodes ∈ lists, NamesNode options nodes name) ∨
        NamesResource (BuildsAmong options start lists) name := by
  induction lists generalizing start with
  | nil =>
      have hnone (node : GraphNode) : ¬ BuildsAmong options start [] node := nofun
      simp [Session.defineLists, NamesResource, hnone]
  | cons nodes lists ih =>
      have hresource : NamesResource (BuildsAmong options start (nodes :: lists)) name ↔
          NamesResource (start.Builds options nodes) name ∨
            NamesResource (BuildsAmong options (start.defineAll options nodes) lists) name := by
        simp only [NamesResource, buildsAmong_cons_iff, or_and_right, exists_or, and_or_left]
      have hcons : Session.defineLists options start (nodes :: lists) =
          Session.defineLists options (start.defineAll options nodes) lists := rfl
      rw [hcons, ih h.defineAll, h.mem_places_defineAll, Accounted, hresource,
        List.exists_mem_cons_iff]
      simp only [or_assoc]
      exact or_congr_right (or_congr_right or_left_comm)

theorem Settled.exists_wants_of_buildsAmong (h : start.Settled) {node : GraphNode}
    (hbuilds : BuildsAmong options start lists node) :
    ∃ nodes ∈ lists, options.Wants nodes node := by
  induction hbuilds with
  | here hbuilds => exact ⟨_, List.mem_cons_self, (h.wants_of_builds hbuilds).1⟩
  | later _ ih =>
      rcases ih h.defineAll with ⟨nodes, hnodes, hwants⟩
      exact ⟨nodes, List.mem_cons_of_mem _ hnodes, hwants⟩

/-- Whether a variable is made from a node of one of some lists or a name when there are some
variables. -/
def WrittenAmong (options : ReconstructionOptions) (lists : List (List GraphNode))
    (before : List Variable) (v : Variable) : Prop :=
  ∃ nodes ∈ lists, ∃ middle : Session, Written options nodes middle before v

/-- Every variable that the work on some lists brings is made from a node of one of the lists or a
name, when there were only the variables before it. -/
theorem Settled.written_defineLists (h : start.Settled) :
    EachBehind start.toList (WrittenAmong options lists)
      (Session.defineLists options start lists).toList := by
  induction lists generalizing start with
  | nil =>
      intro before v after hlist
      simp [Session.defineLists, List.append_assoc] at hlist
  | cons nodes lists ih =>
      have hfirst : EachBehind start.toList (WrittenAmong options (nodes :: lists))
          (start.defineAll options nodes).toList := fun before v after hlist =>
        ⟨nodes, List.mem_cons_self, start, h.sound_defineAll.written before v after hlist⟩
      have hrest : EachBehind (start.defineAll options nodes).toList
          (WrittenAmong options (nodes :: lists))
          (Session.defineLists options (start.defineAll options nodes) lists).toList := by
        intro before v after hlist
        rcases ih h.defineAll before v after hlist with ⟨later, hlater, middle, hwritten⟩
        exact ⟨later, List.mem_cons_of_mem _ hlater, middle, hwritten⟩
      exact hfirst.trans hrest prefix_defineAll prefix_defineLists

end Lists
end Session

/-! ## Graphs -/

namespace SavedGraph

/-- The lists of nodes that are worked on: that of the main graph, and those of the marked
functions. -/
def lists (graph : SavedGraph) (options : ReconstructionOptions) : List (List GraphNode) :=
  graph.nodes :: (graph.functionsMatching options.functionMarker).map GraphFunction.nodes

/-- These are the list of the main graph and those of the functions with the marker in their
name. -/
theorem mem_lists_iff {graph : SavedGraph} {options : ReconstructionOptions}
    {nodes : List GraphNode} : nodes ∈ graph.lists options ↔ nodes = graph.nodes ∨
      ∃ function ∈ graph.functions,
        options.functionMarker.toList <:+: function.name.toList ∧ function.nodes = nodes := by
  simp [lists, functionsMatching, Text.occursIn_iff, and_assoc]

theorem fullSession_eq_defineLists (graph : SavedGraph) (options : ReconstructionOptions) :
    graph.fullSession options = Session.defineLists options .empty (graph.lists options) := by
  rw [fullSession, Session.defineLists, lists, List.foldl_cons, List.foldl_map]
  rfl

/-- The variables of the main graph come first. -/
theorem prefix_fullSession (graph : SavedGraph) (options : ReconstructionOptions) :
    (graph.mainSession options).toList <+: (graph.fullSession options).toList := by
  rw [fullSession_eq_defineLists]
  exact @Session.prefix_defineLists options (graph.mainSession options) _

theorem settled_fullSession (graph : SavedGraph) (options : ReconstructionOptions) :
    (graph.fullSession options).Settled := by
  rw [fullSession_eq_defineLists]
  exact Session.settled_empty.defineLists

/-- Whether a node is declared in the work on a graph. -/
def Builds (graph : SavedGraph) (options : ReconstructionOptions) (node : GraphNode) : Prop :=
  Session.BuildsAmong options .empty (graph.lists options) node

end SavedGraph
end LayerNet
