import Mathlib.Data.List.Chain
import Mathlib.Data.List.Forall2
import LayerNet.Proofs.Reconstruction.Coherent
import LayerNet.Proofs.Reconstruction.Course
import LayerNet.Proofs.Reconstruction.Statement

/-!
# The invariant of a reconstruction

What holds in every state of the work on a list.  The names in progress are those of the nodes on
the stack, each of which is an operand of the one below it; so an operand that is in progress closes
a cycle of references.  Each frame has answered the operands that it was moved past, and each
variable that the list brought is a handle or was written with the answers of its node.

Main definitions:

- `ReconstructionOptions.Refers`: one node of a list has another one among its operands.
- `Answers`: what an operand is answered with.
- `Written`: what a variable is made from.
- `Stage.Sound`: the invariant.

Main results:

- `Stage.Sound.step`, `Stage.Sound.steps`: every step keeps the invariant.
-/

namespace LayerNet

open Relation

/-! ## Nodes of a list -/

section Lists

variable (options : ReconstructionOptions) (nodes : List GraphNode)

/-- Whether a node stands in a list and is not an internal call. -/
def ReconstructionOptions.Wants (node : GraphNode) : Prop :=
  node ∈ nodes ∧ options.isInternal node.cleanedName = false

/-- Whether a node of a list has another one among its operands, and neither is an internal call. -/
def ReconstructionOptions.Refers (node other : GraphNode) : Prop :=
  options.Wants nodes node ∧ options.Wants nodes other ∧
    other.cleanedName ∈ node.inputs.map cleanName

variable {options nodes}

theorem ReconstructionOptions.wants_of_nodeOf? {name : String} {node : GraphNode}
    (h : options.nodeOf? nodes name = some node) :
    options.Wants nodes node ∧ node.cleanedName = name := by
  rcases nodeOf?_spec h with ⟨hmem, hname, hinternal⟩
  exact ⟨⟨hmem, hname ▸ hinternal⟩, hname⟩

/-- A name that a list has a node for has one that is found. -/
theorem ReconstructionOptions.Wants.isSome_nodeOf? {node : GraphNode}
    (h : options.Wants nodes node) : (options.nodeOf? nodes node.cleanedName).isSome = true := by
  rw [nodeOf?, h.2, if_neg Bool.false_ne_true, GraphNode.lookup?, List.find?_isSome]
  exact ⟨node, List.mem_reverse.mpr h.1, beq_self_eq_true _⟩

theorem ReconstructionOptions.nodeOf?_eq_none_iff {name : String} :
    options.nodeOf? nodes name = none ↔
      ∀ node, options.Wants nodes node → node.cleanedName ≠ name := by
  constructor
  · rintro h node hwants rfl
    have hsome := hwants.isSome_nodeOf?
    rw [h] at hsome
    exact Bool.false_ne_true hsome
  · intro h
    rw [Option.eq_none_iff_forall_ne_some]
    intro node hnode
    rcases wants_of_nodeOf? hnode with ⟨hwants, hname⟩
    exact h node hwants hname

end Lists

/-! ## Answers -/

/-- The statement of a variable that is added from a template. -/
theorem Session.statement_added (s : Session) (name op : String)
    (arguments unresolved : List String) :
    (s.added name (statementTemplate op name arguments) unresolved).statement =
      statementText (s.freshIdentifier name).1 op name arguments := by
  rw [Session.added, replaceFirst_statementTemplate]

section Answers

variable (options : ReconstructionOptions) (nodes : List GraphNode) (start : Session)

/-- What an operand of a node is answered with when there are some variables: the identifier of
one that has its name; a placeholder, if a node of its name leads to the node that it is an
operand of; or a placeholder, if it has no node, is not named like a resource and had no variable
at the start. -/
inductive Answers (before : List Variable) (node : GraphNode) (name : String) :
    Argument → Prop where
  | identifier {v : Variable} (hmem : v ∈ before) (hname : v.node = name) :
      Answers before node name (.identifier v.identifier)
  | cycle {upstream : GraphNode} (hwants : options.Wants nodes upstream)
      (hname : upstream.cleanedName = name)
      (hway : ReflTransGen (options.Refers nodes) upstream node) :
      Answers before node name (.placeholder name)
  | missing (hnode : options.nodeOf? nodes name = none)
      (hresource : Text.endsWith resourceSuffix name = false) (hnew : name ∉ start.places) :
      Answers before node name (.placeholder name)

/-- What a variable is made from when there are some variables: a node and the answers to its
operands, or nothing but its name. -/
inductive Written (before : List Variable) (v : Variable) : Prop where
  | node {node : GraphNode} {arguments : List Argument} (hwants : options.Wants nodes node)
      (hname : node.cleanedName = v.node)
      (hanswers : List.Forall₂ (Answers options nodes start before node)
        (node.inputs.map cleanName) arguments)
      (hstatement : v.statement =
        statementText v.identifier node.op v.node (arguments.map Argument.text))
      (hunresolved : v.unresolved = arguments.filterMap Argument.operand?)
  | handle (hresource : Text.endsWith resourceSuffix v.node = true)
      (hnode : options.nodeOf? nodes v.node = none)
      (hstatement : v.statement = statementText v.identifier handleOp v.node [])
      (hunresolved : v.unresolved = [])

/-- Whether a frame has answered the operands that it was moved past. -/
def Frame.Looked (before : List Variable) (f : Frame) : Prop :=
  ∃ (seen : List String) (arguments : List Argument), f.node.inputs = seen ++ f.pending ∧
    List.Forall₂ (Answers options nodes start before f.node) (seen.map cleanName) arguments ∧
    f.arguments = arguments.map Argument.text ∧
    f.unresolved = arguments.filterMap Argument.operand?

variable {options nodes start} {before more : List Variable}

theorem Answers.mono {node : GraphNode} {name : String} {argument : Argument}
    (h : Answers options nodes start before node name argument) (hsubset : before ⊆ more) :
    Answers options nodes start more node name argument := by
  cases h with
  | identifier hmem hname => exact .identifier (hsubset hmem) hname
  | cycle hwants hname hway => exact .cycle hwants hname hway
  | missing hnode hresource hnew => exact .missing hnode hresource hnew

theorem Frame.Looked.mono {f : Frame} (h : f.Looked options nodes start before)
    (hsubset : before ⊆ more) : f.Looked options nodes start more := by
  rcases h with ⟨seen, arguments, hinputs, hanswers, harguments, hunresolved⟩
  exact ⟨seen, arguments, hinputs, hanswers.imp fun _ _ ha => ha.mono hsubset, harguments,
    hunresolved⟩

theorem Frame.looked_start (node : GraphNode) :
    (Frame.start node).Looked options nodes start before :=
  ⟨[], [], rfl, .nil, rfl, rfl⟩

/-- The operand that is looked at next is one of the node. -/
theorem Frame.Looked.operand_mem {f : Frame} (h : f.Looked options nodes start before)
    {operand : String} {pending : List String} (hpending : f.pending = operand :: pending) :
    cleanName operand ∈ f.node.inputs.map cleanName := by
  rcases h with ⟨seen, arguments, hinputs, -⟩
  rw [hinputs, hpending]
  exact List.mem_map_of_mem (List.mem_append_right seen List.mem_cons_self)

/-- A frame is moved past an operand with an answer to it. -/
theorem Frame.Looked.advance {f next : Frame} (h : f.Looked options nodes start before)
    {operand : String} {pending : List String} {argument : Argument}
    (hpending : f.pending = operand :: pending)
    (hanswer : Answers options nodes start before f.node (cleanName operand) argument)
    (hnext : next = ⟨f.node, pending, f.arguments ++ [argument.text],
      f.unresolved ++ argument.operand?.toList⟩) : next.Looked options nodes start before := by
  rcases h with ⟨seen, arguments, hinputs, hanswers, harguments, hunresolved⟩
  subst hnext
  refine ⟨seen ++ [operand], arguments ++ [argument], ?_, ?_, ?_, ?_⟩
  · rw [hinputs, hpending, List.append_assoc, List.singleton_append]
  · rw [List.map_append]
    exact List.rel_append hanswers (.cons hanswer .nil)
  · simp [harguments]
  · cases hargument : argument.operand? <;> simp [hunresolved, hargument]

/-- Once all its operands were looked at, a frame has an answer to each of them. -/
theorem Frame.Looked.written {f : Frame} (h : f.Looked options nodes start before)
    (hpending : f.pending = []) (hwants : options.Wants nodes f.node) (s : Session) :
    Written options nodes start before (s.added f.node.cleanedName
      (statementTemplate f.node.op f.node.cleanedName f.arguments) f.unresolved) := by
  rcases h with ⟨seen, arguments, hinputs, hanswers, harguments, hunresolved⟩
  rw [hpending, List.append_nil] at hinputs
  refine .node hwants rfl (hinputs ▸ hanswers) ?_ hunresolved
  rw [harguments]
  exact s.statement_added _ _ _ _

end Answers

/-! ## The invariant -/

namespace Stage

/-- The nodes on a stack. -/
def stackNodes (stack : List Frame) : List GraphNode :=
  stack.map Frame.node

/-- The names of the nodes on a stack. -/
def stackNames (stack : List Frame) : List String :=
  (stackNodes stack).map GraphNode.cleanedName

/-- What holds in every state of the work on a list that begins with the session `start`. -/
structure Sound (options : ReconstructionOptions) (nodes : List GraphNode) (start : Session)
    (st : Stage) : Prop where
  coherent : st.session.Coherent
  start_places : ∀ name ∈ start.places, name ∈ st.session.places
  inProgress_iff : ∀ name, name ∈ st.session.inProgress ↔ name ∈ stackNames st.stack
  stack_nodup : (stackNames st.stack).Nodup
  stack_new : ∀ name ∈ stackNames st.stack, name ∉ st.session.places
  stack_wants : ∀ node ∈ stackNodes st.stack, options.Wants nodes node
  isWay : (stackNodes st.stack).IsChain fun above below => options.Refers nodes below above
  roots_mem : ∀ root ∈ st.roots, root ∈ nodes
  covered : ∀ node, options.Wants nodes node →
    node ∈ st.roots ∨ node.cleanedName ∈ st.session.places ∨ node ∈ stackNodes st.stack
  looked : ∀ f ∈ st.stack, f.Looked options nodes start st.session.toList
  written : EachBehind start.toList (Written options nodes start) st.session.toList

section Operations

variable {options : ReconstructionOptions} {nodes : List GraphNode} {start s : Session}
  {roots : List GraphNode} {stack rest : List Frame} {f : Frame}

/-- The name of a node on the stack is in progress, so it closes a way back to the top. -/
theorem Sound.exists_way (h : Sound options nodes start ⟨roots, s, f :: rest⟩) {name : String}
    (hprogress : name ∈ s.inProgress) : ∃ upstream, options.Wants nodes upstream ∧
      upstream.cleanedName = name ∧ ReflTransGen (options.Refers nodes) upstream f.node := by
  -- the chain of nodes is followed up from the one in question to the top
  have hway : ∀ (top : GraphNode) (below : List GraphNode),
      (top :: below).IsChain (fun above below => options.Refers nodes below above) →
      ∀ node ∈ top :: below, ReflTransGen (options.Refers nodes) node top := by
    intro top below hchain node hnode
    induction below generalizing top with
    | nil =>
        rw [List.mem_singleton.mp hnode]
    | cons next below ih =>
        rw [List.isChain_cons_cons] at hchain
        rcases List.mem_cons.mp hnode with rfl | hnode
        · exact .refl
        · exact (ih next hchain.2 hnode).tail hchain.1
  rcases List.mem_map.mp ((h.inProgress_iff name).mp hprogress) with ⟨upstream, hmem, hname⟩
  exact ⟨upstream, h.stack_wants upstream hmem, hname, hway f.node _ h.isWay upstream hmem⟩

/-- A node is passed over that is an internal call or has a variable. -/
theorem Sound.skip {root : GraphNode} (h : Sound options nodes start ⟨root :: roots, s, []⟩)
    (hdone : options.isInternal root.cleanedName = true ∨ root.cleanedName ∈ s.places) :
    Sound options nodes start ⟨roots, s, []⟩ where
  coherent := h.coherent
  start_places := h.start_places
  inProgress_iff := h.inProgress_iff
  stack_nodup := h.stack_nodup
  stack_new := h.stack_new
  stack_wants := h.stack_wants
  isWay := h.isWay
  roots_mem node hnode := h.roots_mem node (List.mem_cons_of_mem _ hnode)
  covered node hwants := by
    rcases h.covered node hwants with hroot | hrest
    · rcases List.mem_cons.mp hroot with rfl | hroot
      · refine Or.inr (Or.inl (hdone.resolve_left ?_))
        rw [hwants.2]
        exact Bool.false_ne_true
      · exact Or.inl hroot
    · exact Or.inr hrest
  looked := h.looked
  written := h.written

/-- A node that has no variable and is not on the stack is put on it, if it is the next one that
gets its turn or an operand of the top. -/
theorem Sound.push {next : List GraphNode} {node : GraphNode}
    (h : Sound options nodes start ⟨roots, s, stack⟩) (hwants : options.Wants nodes node)
    (hnew : node.cleanedName ∉ s.places) (hprogress : node.cleanedName ∉ s.inProgress)
    (hrefers : ∀ below ∈ (stackNodes stack).head?, options.Refers nodes below node)
    (hsubset : next ⊆ roots) (hroots : ∀ root ∈ roots, root = node ∨ root ∈ next) :
    Sound options nodes start
      ⟨next, s.enter node.cleanedName, Frame.start node :: stack⟩ where
  coherent := h.coherent.enter _
  start_places := h.start_places
  inProgress_iff name := by
    have hnames :
        stackNames (Frame.start node :: stack) = node.cleanedName :: stackNames stack := rfl
    rw [Session.mem_inProgress_enter, h.inProgress_iff, hnames, List.mem_cons]
  stack_nodup := List.nodup_cons.mpr
    ⟨fun hmem => hprogress ((h.inProgress_iff _).mpr hmem), h.stack_nodup⟩
  stack_new name hname := by
    rcases List.mem_cons.mp hname with rfl | hname
    · exact hnew
    · exact h.stack_new name hname
  stack_wants other hother := by
    rcases List.mem_cons.mp hother with rfl | hother
    · exact hwants
    · exact h.stack_wants other hother
  isWay := List.isChain_cons.mpr ⟨hrefers, h.isWay⟩
  roots_mem root hroot := h.roots_mem root (hsubset hroot)
  covered other hother := by
    rcases h.covered other hother with hroot | hplace | hstack
    · rcases hroots other hroot with rfl | hroot
      · exact Or.inr (Or.inr List.mem_cons_self)
      · exact Or.inl hroot
    · exact Or.inr (Or.inl hplace)
    · exact Or.inr (Or.inr (List.mem_cons_of_mem _ hstack))
  looked g hg := by
    rcases List.mem_cons.mp hg with rfl | hg
    · exact Frame.looked_start node
    · exact h.looked g hg
  written := h.written

/-- The frame on top is replaced by one for the same node that was moved on. -/
theorem Sound.advance {g : Frame} (h : Sound options nodes start ⟨roots, s, f :: rest⟩)
    (hnode : g.node = f.node) (hlooked : g.Looked options nodes start s.toList) :
    Sound options nodes start ⟨roots, s, g :: rest⟩ := by
  have hnodes : stackNodes (g :: rest) = stackNodes (f :: rest) := by
    simp [stackNodes, hnode]
  have hnames : stackNames (g :: rest) = stackNames (f :: rest) := by
    rw [stackNames, stackNames, hnodes]
  refine
    { coherent := h.coherent
      start_places := h.start_places
      inProgress_iff := fun name => hnames ▸ h.inProgress_iff name
      stack_nodup := hnames ▸ h.stack_nodup
      stack_new := hnames ▸ h.stack_new
      stack_wants := hnodes ▸ h.stack_wants
      isWay := hnodes ▸ h.isWay
      roots_mem := h.roots_mem
      covered := hnodes ▸ h.covered
      looked := fun other hother => ?_
      written := h.written }
  rcases List.mem_cons.mp hother with rfl | hother
  · exact hlooked
  · exact h.looked other (List.mem_cons_of_mem _ hother)

/-- A handle is declared for a name that has neither a variable nor a node. -/
theorem Sound.declareHandle {name : String} (h : Sound options nodes start ⟨roots, s, stack⟩)
    (hnew : name ∉ s.places) (hprogress : name ∉ s.inProgress)
    (hnode : options.nodeOf? nodes name = none)
    (hresource : Text.endsWith resourceSuffix name = true) :
    Sound options nodes start ⟨roots, (s.declareHandle name).2, stack⟩ := by
  have hlist : (s.declareHandle name).2.toList =
      s.toList ++ [s.added name (statementTemplate handleOp name []) []] := Session.toList_declare
  have hsubset : s.toList ⊆ (s.declareHandle name).2.toList := Session.prefix_declare.subset
  have hplaces (other : String) :
      other ∈ (s.declareHandle name).2.places ↔ other = name ∨ other ∈ s.places :=
    Session.mem_places_declare
  refine
    { coherent := h.coherent.declare hnew _ _
      start_places := fun other hother => (hplaces other).mpr (Or.inr (h.start_places other hother))
      inProgress_iff := h.inProgress_iff
      stack_nodup := h.stack_nodup
      stack_new := fun other hother => ?_
      stack_wants := h.stack_wants
      isWay := h.isWay
      roots_mem := h.roots_mem
      covered := fun node hwants => ?_
      looked := fun f hf => (h.looked f hf).mono hsubset
      written := ?_ }
  · rw [hplaces, not_or]
    refine ⟨?_, h.stack_new other hother⟩
    rintro rfl
    exact hprogress ((h.inProgress_iff _).mpr hother)
  · rw [hplaces]
    exact (h.covered node hwants).imp_right (Or.imp_left Or.inr)
  · rw [hlist]
    refine h.written.concat (.handle hresource hnode ?_ rfl)
    exact s.statement_added name handleOp [] []

/-- The node on top is declared once all its operands were looked at. -/
theorem Sound.finish (h : Sound options nodes start ⟨roots, s, f :: rest⟩)
    (hpending : f.pending = []) : Sound options nodes start ⟨roots, s.finish f, rest⟩ := by
  have hlist : (s.finish f).toList = s.toList ++ [s.added f.node.cleanedName
      (statementTemplate f.node.op f.node.cleanedName f.arguments) f.unresolved] :=
    Session.toList_declare
  have hsubset : s.toList ⊆ (s.finish f).toList :=
    (s.leave f.node.cleanedName).prefix_declare.subset
  have hplaces (name : String) :
      name ∈ (s.finish f).places ↔ name = f.node.cleanedName ∨ name ∈ s.places :=
    Session.mem_places_declare
  have hnames : stackNames (f :: rest) = f.node.cleanedName :: stackNames rest := rfl
  have hnodup : f.node.cleanedName ∉ stackNames rest ∧ (stackNames rest).Nodup :=
    List.nodup_cons.mp h.stack_nodup
  have hnew : f.node.cleanedName ∉ s.places := h.stack_new _ List.mem_cons_self
  refine
    { coherent := (h.coherent.leave _).declare hnew _ _
      start_places := fun name hname => (hplaces name).mpr (Or.inr (h.start_places name hname))
      inProgress_iff := fun name => ?_
      stack_nodup := hnodup.2
      stack_new := fun name hname => ?_
      stack_wants := fun node hnode => h.stack_wants node (List.mem_cons_of_mem _ hnode)
      isWay := h.isWay.tail
      roots_mem := h.roots_mem
      covered := fun node hwants => ?_
      looked := fun g hg => (h.looked g (List.mem_cons_of_mem _ hg)).mono hsubset
      written := ?_ }
  · have hprogress : name ∈ (s.finish f).inProgress ↔
        name ≠ f.node.cleanedName ∧ name ∈ s.inProgress := Session.mem_inProgress_leave
    rw [hprogress, h.inProgress_iff, hnames, List.mem_cons]
    constructor
    · rintro ⟨hne, hname | hname⟩
      · exact absurd hname hne
      · exact hname
    · intro hname
      refine ⟨?_, Or.inr hname⟩
      rintro rfl
      exact hnodup.1 hname
  · rw [hplaces, not_or]
    refine ⟨?_, h.stack_new name (List.mem_cons_of_mem _ hname)⟩
    rintro rfl
    exact hnodup.1 hname
  · rw [hplaces]
    rcases h.covered node hwants with hroot | hplace | hstack
    · exact Or.inl hroot
    · exact Or.inr (Or.inl (Or.inr hplace))
    · rcases List.mem_cons.mp hstack with rfl | hstack
      · exact Or.inr (Or.inl (Or.inl rfl))
      · exact Or.inr (Or.inr hstack)
  · rw [hlist]
    refine h.written.concat ?_
    exact (h.looked f List.mem_cons_self).written hpending
      (h.stack_wants f.node List.mem_cons_self) s

end Operations

/-! ## Steps -/

section Steps

variable {options : ReconstructionOptions} {nodes : List GraphNode} {start : Session}
  {st next : Stage}

/-- Every step keeps the invariant. -/
theorem Sound.step (h : Sound options nodes start st) (hstep : Step options nodes st next) :
    Sound options nodes start next := by
  cases hstep with
  | skip hdone => exact h.skip hdone
  | @root roots root s hinternal hnew =>
      have hwants : options.Wants nodes root := ⟨h.roots_mem root List.mem_cons_self, hinternal⟩
      have hprogress : root.cleanedName ∉ s.inProgress := fun hmem =>
        List.not_mem_nil ((h.inProgress_iff _).mp hmem)
      exact h.push hwants hnew hprogress (by simp [stackNodes]) (List.subset_cons_self _ _)
        fun _ => List.mem_cons.mp
  | finish hpending => exact h.finish hpending
  | @identifier roots s f rest operand text pending hpending hresolve =>
      cases Session.resolves_of_resolve_eq hresolve with
      | identifier hfind =>
          rcases h.coherent.find?_eq_some_iff.mp hfind with ⟨hv, hname⟩
          refine h.advance rfl ((h.looked f List.mem_cons_self).advance hpending
            (.identifier (List.mem_of_getElem? hv) hname) ?_)
          simp [Frame.withArgument, Argument.text, Argument.operand?]
  | @handle roots s f rest operand pending hpending hresolve =>
      cases Session.resolves_of_resolve_eq hresolve with
      | handle hnew hprogress hnode hresource =>
          have hdeclared := h.declareHandle hnew hprogress hnode hresource
          have hlast : s.added (cleanName operand)
              (statementTemplate handleOp (cleanName operand) [])
              [] ∈ (s.declareHandle (cleanName operand)).2.toList := by
            simp [Session.declareHandle]
          refine hdeclared.advance rfl ((hdeclared.looked f List.mem_cons_self).advance hpending
            (.identifier hlast rfl) ?_)
          simp [Frame.withArgument, Argument.text, Argument.operand?]
          rfl
  | @placeholder roots s f rest operand pending hpending hresolve =>
      have hanswer : Answers options nodes start s.toList f.node (cleanName operand)
          (.placeholder (cleanName operand)) := by
        cases Session.resolves_of_resolve_eq hresolve with
        | cycle hnew hprogress =>
            rcases h.exists_way hprogress with ⟨upstream, hwants, hname, hway⟩
            exact .cycle hwants hname hway
        | missing hnew hprogress hnode hresource =>
            exact .missing hnode hresource fun hmem => hnew (h.start_places _ hmem)
      exact h.advance rfl ((h.looked f List.mem_cons_self).advance hpending hanswer rfl)
  | @enter roots s f rest operand pending node hpending hresolve =>
      cases Session.resolves_of_resolve_eq hresolve with
      | enter hnew hprogress hnode =>
          rcases ReconstructionOptions.wants_of_nodeOf? hnode with ⟨hwants, hname⟩
          have hrefers : options.Refers nodes f.node node := by
            refine ⟨h.stack_wants f.node List.mem_cons_self, hwants, ?_⟩
            rw [hname]
            exact (h.looked f List.mem_cons_self).operand_mem hpending
          rw [← hname]
          refine h.push hwants (hname ▸ hnew) (hname ▸ hprogress) (fun below hbelow => ?_)
            (List.Subset.refl _) fun _ => Or.inr
          cases hbelow
          exact hrefers

/-- Any number of steps keeps the invariant. -/
theorem Sound.steps (h : Sound options nodes start st) (hsteps : Steps options nodes st next) :
    Sound options nodes start next := by
  induction hsteps with
  | refl => exact h
  | tail _ hstep ih => exact ih.step hstep

end Steps

end Stage
end LayerNet
