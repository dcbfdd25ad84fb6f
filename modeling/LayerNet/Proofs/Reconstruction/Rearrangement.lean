import LayerNet.Proofs.Reconstruction.Functions
import LayerNet.Proofs.Reconstruction.Variables

/-!
# The order of nodes

In which order the nodes of a list come decides which of them get their turn, which are declared as
operands, and when handles turn up.  Still the same variables come out, in another order, if names
are not repeated within a list, references do not go in circles, and identifiers need no numbers:
then each variable is determined by names alone.

Main definitions:

- `Orderly`: lists without repeated names and without circles.
- `Determined`: a variable as names determine it.
- `SavedGraph.Rearranged`: graphs that differ in the order of nodes.

Main results:

- `Session.Settled.perm_defineLists`: rearranged lists bring the same variables.
- `SavedGraph.reconstruct_perm`: a rearranged graph has the same reconstruction, in another order.
-/

namespace LayerNet

open Relation

/-! ## Lists -/

section Orderly

variable (options : ReconstructionOptions) (nodes : List GraphNode)

/-- Whether no name is repeated in a list, and the references between its nodes that are not
internal calls do not go in circles. -/
structure Orderly : Prop where
  distinct : (nodes.map GraphNode.cleanedName).Nodup
  acyclic : ∀ node, ¬ TransGen (options.Refers nodes) node node

variable {options nodes} {nodes' : List GraphNode}

theorem wants_eq_of_perm (h : nodes.Perm nodes') : options.Wants nodes = options.Wants nodes' := by
  funext node
  rw [ReconstructionOptions.Wants, ReconstructionOptions.Wants, h.mem_iff]

theorem Orderly.of_perm (h : Orderly options nodes) (hperm : nodes.Perm nodes') :
    Orderly options nodes' where
  distinct := (hperm.map _).nodup_iff.mp h.distinct
  acyclic := by
    have hrefers : options.Refers nodes = options.Refers nodes' := by
      funext node other
      rw [ReconstructionOptions.Refers, ReconstructionOptions.Refers, wants_eq_of_perm hperm]
    rw [← hrefers]
    exact h.acyclic

theorem Orderly.eq_of_cleanedName_eq (h : Orderly options nodes) {node other : GraphNode}
    (hnode : options.Wants nodes node) (hother : options.Wants nodes other)
    (heq : node.cleanedName = other.cleanedName) : node = other :=
  List.inj_on_of_nodup_map h.distinct hnode.1 hother.1 heq

/-- A list whose references all go down in some rank is orderly. -/
theorem orderly_of_rank (hdistinct : (nodes.map GraphNode.cleanedName).Nodup)
    (rank : GraphNode → Nat) (hdown : ∀ node ∈ nodes, ∀ other ∈ nodes,
      other.cleanedName ∈ node.inputs.map cleanName → rank other < rank node) :
    Orderly options nodes where
  distinct := hdistinct
  acyclic node := by
    have hway : ∀ other, TransGen (options.Refers nodes) node other → rank other < rank node := by
      intro other hway
      induction hway with
      | single hstep => exact hdown _ hstep.1.1 _ hstep.2.1.1 hstep.2.2
      | tail _ hstep ih => exact (hdown _ hstep.1.1 _ hstep.2.1.1 hstep.2.2).trans ih
    exact fun hcircle => absurd (hway node hcircle) (Nat.lt_irrefl _)

end Orderly

/-! ## Variables that names determine -/

section Determined

variable (known : String → Prop) (wants : GraphNode → Prop)

/-- The argument for an operand as names determine it: what is made of the operand if it is known,
and else a placeholder. -/
inductive DeterminedArgument (operand : String) : Argument → Prop where
  | identifier (h : known operand) : DeterminedArgument operand (.identifier (identifierOf operand))
  | placeholder (h : ¬ known operand) : DeterminedArgument operand (.placeholder operand)

/-- A variable as names determine it: that of a node, with such arguments; or the handle of a
resource that has no node. -/
inductive Determined (v : Variable) : Prop where
  | node {node : GraphNode} {arguments : List Argument} (hwants : wants node)
      (hname : node.cleanedName = v.node) (hidentifier : v.identifier = identifierOf v.node)
      (harguments :
        List.Forall₂ (DeterminedArgument known) (node.inputs.map cleanName) arguments)
      (hstatement : v.statement =
        statementText v.identifier node.op v.node (arguments.map Argument.text))
      (hunresolved : v.unresolved = arguments.filterMap Argument.operand?)
  | handle (hnone : ∀ node, wants node → node.cleanedName ≠ v.node)
      (hidentifier : v.identifier = identifierOf v.node)
      (hstatement : v.statement = statementText v.identifier handleOp v.node [])
      (hunresolved : v.unresolved = [])

variable {known wants}

theorem rightUnique_determinedArgument : Relator.RightUnique (DeterminedArgument known) := by
  rintro operand argument other (hknown | hunknown) (hknown' | hunknown')
  · rfl
  · exact absurd hknown hunknown'
  · exact absurd hknown' hunknown
  · rfl

/-- Names do determine it. -/
theorem Determined.eq {v w : Variable} (hv : Determined known wants v)
    (hw : Determined known wants w)
    (hdistinct : ∀ node other, wants node → wants other →
      node.cleanedName = other.cleanedName → node = other)
    (heq : v.node = w.node) : v = w := by
  obtain ⟨identifier, name, statement, unresolved⟩ := v
  obtain ⟨identifier', name', statement', unresolved'⟩ := w
  obtain rfl : name = name' := heq
  cases hv with
  | @node node arguments hwants hname hidentifier harguments hstatement hunresolved =>
      cases hw with
      | @node node' arguments' hwants' hname' hidentifier' harguments' hstatement' hunresolved' =>
          obtain rfl : node = node' := hdistinct _ _ hwants hwants' (hname.trans hname'.symm)
          obtain rfl : arguments = arguments' :=
            List.right_unique_forall₂' rightUnique_determinedArgument harguments harguments'
          simp only at hidentifier hidentifier' hstatement hstatement' hunresolved hunresolved'
          rw [hstatement, hstatement', hunresolved, hunresolved', hidentifier, hidentifier']
      | handle hnone => exact absurd hname (hnone node hwants)
  | handle hnone hidentifier hstatement hunresolved =>
      cases hw with
      | node hwants' hname' => exact absurd hname' (hnone _ hwants')
      | handle hnone' hidentifier' hstatement' hunresolved' =>
          simp only at hidentifier hidentifier' hstatement hstatement' hunresolved hunresolved'
          rw [hstatement, hstatement', hunresolved, hunresolved', hidentifier, hidentifier']

end Determined

/-! ## One list -/

namespace Session

section List

variable {options : ReconstructionOptions} {nodes nodes' : List GraphNode} {start start' : Session}
  {name : String}

/-- Whether a name has a variable at the end of a list if an operand with it is looked at. -/
def Known (options : ReconstructionOptions) (nodes : List GraphNode) (start : Session)
    (name : String) : Prop :=
  name ∈ start.places ∨ NamesNode options nodes name ∨ Text.endsWith resourceSuffix name = true

/-- Whether every variable has the identifier that is made of its name. -/
def IsNatural (s : Session) : Prop :=
  ∀ v ∈ s.toList, v.identifier = identifierOf v.node

theorem IsNatural.of_prefix {s final : Session} (h : final.IsNatural)
    (hkept : s.toList <+: final.toList) : s.IsNatural :=
  fun v hv => h v (hkept.subset hv)

theorem Settled.known_of_mem_places (h : start.Settled)
    (hname : name ∈ (start.defineAll options nodes).places) : start.Known options nodes name :=
  (h.mem_places_defineAll.mp hname).imp_right (Or.imp_right And.left)

/-- Without circles and numbers, an answer to an operand is what its name determines. -/
theorem Settled.determinedArgument (h : start.Settled) (horderly : Orderly options nodes)
    (hnatural : (start.defineAll options nodes).IsNatural) {before : List Variable}
    (hbefore : before ⊆ (start.defineAll options nodes).toList) {node : GraphNode}
    (hwants : options.Wants nodes node) (hoperand : name ∈ node.inputs.map cleanName)
    {argument : Argument} (hanswer : Answers options nodes start before node name argument) :
    DeterminedArgument (Known options nodes start) name argument := by
  cases hanswer with
  | @identifier v hmem hname =>
      have hv : v ∈ (start.defineAll options nodes).toList := hbefore hmem
      rw [hnatural v hv, hname]
      refine .identifier (h.known_of_mem_places ?_)
      exact h.defineAll.coherent.mem_places_iff.mpr ⟨v, hv, hname⟩
  | @cycle upstream hupstream hname hway =>
      have hrefers : options.Refers nodes node upstream := ⟨hwants, hupstream, hname ▸ hoperand⟩
      exact absurd (TransGen.tail' hway hrefers) (horderly.acyclic upstream)
  | missing hnode hresource hnew =>
      refine .placeholder ?_
      rintro (hstart | ⟨other, hother, hname⟩ | hends)
      · exact hnew hstart
      · exact ReconstructionOptions.nodeOf?_eq_none_iff.mp hnode other hother hname
      · exact absurd (hends.symm.trans hresource) (by decide)

/-- So is a variable that the list brings. -/
theorem Settled.determined (h : start.Settled) (horderly : Orderly options nodes)
    (hnatural : (start.defineAll options nodes).IsNatural) {v : Variable}
    (hv : v ∈ (start.defineAll options nodes).toList) :
    v ∈ start.toList ∨ Determined (Known options nodes start) (options.Wants nodes) v := by
  rcases h.exists_written_defineAll hv with hstart | ⟨before, hbefore, hwritten⟩
  · exact Or.inl hstart
  · refine Or.inr ?_
    cases hwritten with
    | @node node arguments hwants hname hanswers hstatement hunresolved =>
        refine .node hwants hname (hnatural v hv) ?_ hstatement hunresolved
        refine ((List.forall₂_and_left _ _).mpr ⟨fun _ => id, hanswers⟩).imp ?_
        rintro operand argument ⟨hoperand, hanswer⟩
        exact h.determinedArgument horderly hnatural hbefore hwants hoperand hanswer
    | handle hresource hnode hstatement hunresolved =>
        exact .handle (ReconstructionOptions.nodeOf?_eq_none_iff.mp hnode) (hnatural v hv)
          hstatement hunresolved

/-- Which nodes are declared does not depend on their order: all that had no variable before. -/
theorem Settled.mem_places_defineAll_of_orderly (h : start.Settled)
    (horderly : Orderly options nodes) :
    name ∈ (start.defineAll options nodes).places ↔ Accounted options nodes start
      (fun node => options.Wants nodes node ∧ node.cleanedName ∉ start.places) name := by
  rw [h.mem_places_defineAll]
  constructor
  · exact fun hname => hname.mono fun _ => h.wants_of_builds
  · rintro (hstart | hnode | ⟨hresource, node, ⟨hwants, hnew⟩, hoperand⟩)
    · exact Or.inl hstart
    · exact Or.inr (Or.inl hnode)
    · rw [← h.mem_places_defineAll]
      rcases h.defineAll.coherent.mem_places_iff.mp (h.mem_places_of_wants hwants) with
        ⟨v, hv, hname⟩
      rcases h.exists_written_defineAll hv with hstart | ⟨before, hbefore, hwritten⟩
      · exact absurd (h.coherent.mem_places_iff.mpr ⟨v, hstart, hname⟩) hnew
      · cases hwritten with
        | @node other arguments hother hname' hanswers hstatement hunresolved =>
            obtain rfl := horderly.eq_of_cleanedName_eq hother hwants (hname'.trans hname)
            rcases exists_of_forall₂ hanswers hoperand with ⟨argument, -, hanswer⟩
            exact h.mem_places_of_answers hanswer hbefore hresource
        | handle hends hnone hstatement hunresolved =>
            rw [ReconstructionOptions.nodeOf?_eq_none_iff] at hnone
            exact absurd hname.symm (hnone node hwants)

/-- Sessions with the same variables have variables for the same names. -/
theorem mem_places_iff_of_perm (h : start.Settled) (h' : start'.Settled)
    (hperm : start.toList.Perm start'.toList) : name ∈ start.places ↔ name ∈ start'.places := by
  rw [h.coherent.mem_places_iff, h'.coherent.mem_places_iff]
  simp only [hperm.mem_iff]

/-- Every variable that a list brings is brought by a rearranged list too. -/
theorem Settled.subset_defineAll (h : start.Settled) (h' : start'.Settled)
    (hperm : start.toList.Perm start'.toList) (hnodes : nodes.Perm nodes')
    (horderly : Orderly options nodes) (hnatural : (start.defineAll options nodes).IsNatural)
    (hnatural' : (start'.defineAll options nodes').IsNatural) :
    (start.defineAll options nodes).toList ⊆ (start'.defineAll options nodes').toList := by
  have hstarts (name : String) : name ∈ start.places ↔ name ∈ start'.places :=
    mem_places_iff_of_perm h h' hperm
  have hwants : options.Wants nodes = options.Wants nodes' := wants_eq_of_perm hnodes
  have hnames : NamesNode options nodes = NamesNode options nodes' := by
    funext name
    rw [NamesNode, NamesNode, hwants]
  have hknown : Known options nodes start = Known options nodes' start' := by
    funext name
    rw [Known, Known, hnames, hstarts]
  have horderly' : Orderly options nodes' := horderly.of_perm hnodes
  intro v hv
  rcases h.determined horderly hnatural hv with hstart | hdetermined
  · exact prefix_defineAll.subset (hperm.mem_iff.mp hstart)
  -- the name of `v` has a variable there too; either it is an old one, or names determine both
  · have hplace : v.node ∈ (start'.defineAll options nodes').places := by
      have hplace : v.node ∈ (start.defineAll options nodes).places :=
        h.defineAll.coherent.mem_places_iff.mpr ⟨v, hv, rfl⟩
      rw [h.mem_places_defineAll_of_orderly horderly, Accounted, hnames, hwants] at hplace
      rw [h'.mem_places_defineAll_of_orderly horderly', Accounted]
      simpa only [hstarts] using hplace
    rcases h'.defineAll.coherent.mem_places_iff.mp hplace with ⟨w, hw, hname⟩
    rcases h'.determined horderly' hnatural' hw with hstart' | hdetermined'
    · have hold : w ∈ (start.defineAll options nodes).toList :=
        prefix_defineAll.subset (hperm.mem_iff.mpr hstart')
      rw [h.defineAll.coherent.eq_of_node_eq hv hold hname.symm]
      exact hw
    · rw [← hknown, ← hwants] at hdetermined'
      rw [hdetermined.eq hdetermined' (fun _ _ => horderly.eq_of_cleanedName_eq) hname.symm]
      exact hw

theorem Settled.nodup_toList (h : start.Settled) : start.toList.Nodup :=
  h.coherent.nodup_names.of_map

/-- A rearranged list brings the same variables. -/
theorem Settled.perm_defineAll (h : start.Settled) (h' : start'.Settled)
    (hperm : start.toList.Perm start'.toList) (hnodes : nodes.Perm nodes')
    (horderly : Orderly options nodes) (hnatural : (start.defineAll options nodes).IsNatural)
    (hnatural' : (start'.defineAll options nodes').IsNatural) :
    (start.defineAll options nodes).toList.Perm (start'.defineAll options nodes').toList := by
  rw [List.perm_ext_iff_of_nodup h.defineAll.nodup_toList h'.defineAll.nodup_toList]
  intro v
  constructor
  · exact fun hv => h.subset_defineAll h' hperm hnodes horderly hnatural hnatural' hv
  · exact fun hv => h'.subset_defineAll h hperm.symm hnodes.symm (horderly.of_perm hnodes)
      hnatural' hnatural hv

/-- Rearranged lists bring the same variables, one list after another. -/
theorem Settled.perm_defineLists {lists lists' : List (List GraphNode)} (h : start.Settled)
    (h' : start'.Settled) (hperm : start.toList.Perm start'.toList)
    (hlists : List.Forall₂ List.Perm lists lists')
    (horderly : ∀ nodes ∈ lists, Orderly options nodes)
    (hnatural : (Session.defineLists options start lists).IsNatural)
    (hnatural' : (Session.defineLists options start' lists').IsNatural) :
    (Session.defineLists options start lists).toList.Perm
      (Session.defineLists options start' lists').toList := by
  induction hlists generalizing start start' with
  | nil => exact hperm
  | @cons nodes nodes' lists lists' hnodes _ ih =>
      have hfirst : (start.defineAll options nodes).IsNatural :=
        hnatural.of_prefix (@prefix_defineLists options (start.defineAll options nodes) lists)
      have hfirst' : (start'.defineAll options nodes').IsNatural :=
        hnatural'.of_prefix (@prefix_defineLists options (start'.defineAll options nodes') lists')
      have horderlyFirst : Orderly options nodes := horderly nodes List.mem_cons_self
      exact ih h.defineAll h'.defineAll
        (h.perm_defineAll h' hperm hnodes horderlyFirst hfirst hfirst')
        (fun later hlater => horderly later (List.mem_cons_of_mem _ hlater)) hnatural hnatural'

end List
end Session

/-! ## Filling in -/

/-- Which resource an operand gets does not depend on the order of the variables. -/
theorem resourceFor_eq_of_perm {all all' : List Variable} (hperm : all.Perm all')
    (hnodup : (all.map Variable.node).Nodup) (node operand : String) :
    resourceFor all node operand = resourceFor all' node operand := by
  have hnodup' : (all'.map Variable.node).Nodup := (hperm.map _).nodup_iff.mp hnodup
  refine Option.ext fun identifier => ?_
  rw [resourceFor_eq_some_iff hnodup, resourceFor_eq_some_iff hnodup']
  simp only [hperm.mem_iff]

theorem Variable.filled_eq_of_perm {all all' : List Variable} (hperm : all.Perm all')
    (hnodup : (all.map Variable.node).Nodup) : Variable.filled all = Variable.filled all' := by
  have hoperand : Variable.fillOperand all = Variable.fillOperand all' := by
    funext v operand
    rw [Variable.fillOperand, Variable.fillOperand, resourceFor_eq_of_perm hperm hnodup]
  funext v
  rw [Variable.filled, Variable.filled, hoperand]

/-! ## Graphs -/

namespace SavedGraph

variable {graph graph' : SavedGraph} {options : ReconstructionOptions}

/-- Whether graphs differ only in the order of the nodes in their lists. -/
structure Rearranged (graph graph' : SavedGraph) : Prop where
  nodes : graph.nodes.Perm graph'.nodes
  functions : List.Forall₂ (fun function function' =>
    function.name = function'.name ∧ function.nodes.Perm function'.nodes)
    graph.functions graph'.functions

/-- Whether a name is that of a node in one of the lists, or that of an operand. -/
def Mentions (graph : SavedGraph) (options : ReconstructionOptions) (name : String) : Prop :=
  ∃ nodes ∈ graph.lists options, ∃ node ∈ nodes,
    name = node.cleanedName ∨ name ∈ node.inputs.map cleanName

/-- The same lists are worked on in the same order. -/
theorem Rearranged.lists (h : Rearranged graph graph') :
    List.Forall₂ List.Perm (graph.lists options) (graph'.lists options) :=
  forall₂_lists h.nodes h.functions

theorem Rearranged.mentions {name : String} (h : Rearranged graph graph')
    (hname : graph'.Mentions options name) : graph.Mentions options name := by
  rcases hname with ⟨nodes', hnodes', node, hnode, hname⟩
  rcases exists_of_forall₂ h.lists.flip hnodes' with ⟨nodes, hnodes, hperm⟩
  exact ⟨nodes, hnodes, node, hperm.mem_iff.mpr hnode, hname⟩

/-- Only names that are mentioned have variables. -/
theorem mentions_of_mem_unfilled {v : Variable} (hv : v ∈ graph.unfilled options) :
    graph.Mentions options v.node := by
  rcases mem_names_unfilled.mp (List.mem_map_of_mem hv) with
    ⟨nodes, hnodes, node, hwants, hname⟩ | ⟨-, node, hbuilds, hoperand⟩
  · exact ⟨nodes, hnodes, node, hwants.1, Or.inl hname.symm⟩
  · rcases Session.settled_empty.exists_wants_of_buildsAmong hbuilds with ⟨nodes, hnodes, hwants⟩
    exact ⟨nodes, hnodes, node, hwants.1, Or.inr hoperand⟩

/-- If different identifiers are made of the names, no identifier has a number. -/
theorem isNatural_fullSession (hinjective : Set.InjOn identifierOf (graph.Mentions options)) :
    (graph.fullSession options).IsNatural :=
  (graph.settled_fullSession options).coherent.identifier_eq fun _ hv _ hw =>
    hinjective (mentions_of_mem_unfilled hv) (mentions_of_mem_unfilled hw)

/-- The variables of a rearranged graph are the same before placeholders are filled in, those of the
main graph for themselves as well. -/
theorem Rearranged.perm_unfilled (h : Rearranged graph graph')
    (horderly : ∀ nodes ∈ graph.lists options, Orderly options nodes)
    (hinjective : Set.InjOn identifierOf (graph.Mentions options)) :
    (graph.mainSession options).toList.Perm (graph'.mainSession options).toList ∧
      (graph.unfilled options).Perm (graph'.unfilled options) := by
  have hnatural : (graph.fullSession options).IsNatural := isNatural_fullSession hinjective
  have hnatural' : (graph'.fullSession options).IsNatural :=
    isNatural_fullSession (hinjective.mono fun name => h.mentions)
  constructor
  · exact Session.settled_empty.perm_defineAll Session.settled_empty (List.Perm.refl _) h.nodes
      (horderly graph.nodes List.mem_cons_self)
      (hnatural.of_prefix (graph.prefix_fullSession options))
      (hnatural'.of_prefix (graph'.prefix_fullSession options))
  · rw [fullSession_eq_defineLists] at hnatural hnatural'
    rw [unfilled, unfilled, fullSession_eq_defineLists, fullSession_eq_defineLists]
    exact Session.settled_empty.perm_defineLists Session.settled_empty (List.Perm.refl _) h.lists
      horderly hnatural hnatural'

/-- Rearranging the nodes of a graph rearranges its reconstruction, with the main graph or without,
if in each list names are not repeated and references do not go in circles, and different
identifiers are made of all names. -/
theorem reconstruct_perm {graph graph' : SavedGraph} {options : ReconstructionOptions}
    (horderly : ∀ nodes ∈ graph.lists options, Orderly options nodes)
    (hinjective : Set.InjOn identifierOf (graph.Mentions options))
    (h : Rearranged graph graph') :
    (graph.reconstruct options).Perm (graph'.reconstruct options) := by
  rcases h.perm_unfilled horderly hinjective with ⟨hmain, hall⟩
  have hfilled : Variable.filled (graph.unfilled options) =
      Variable.filled (graph'.unfilled options) :=
    Variable.filled_eq_of_perm hall nodup_names_unfilled
  unfold reconstruct
  split
  · rw [allVariables_eq_map, allVariables_eq_map, hfilled]
    exact hall.map _
  · rcases graph.prefix_fullSession options with ⟨rest, hrest⟩
    rcases graph'.prefix_fullSession options with ⟨rest', hrest'⟩
    have hbehind : rest.Perm rest' := by
      rw [unfilled, unfilled, ← hrest, ← hrest'] at hall
      exact (List.perm_append_left_iff _).mp (hall.trans (hmain.symm.append_right rest'))
    rw [drop_allVariables hrest, drop_allVariables hrest', hfilled]
    exact hbehind.map _

/-- A graph whose nodes come before their operands: some are declared on the way, and a handle turns
up in the middle. -/
def outputsFirst : SavedGraph where
  nodes :=
    [⟨"sum", "AddV2", ["left", "right:0", "^left"]⟩, ⟨"right", "Neg", ["left", "missing"]⟩,
     ⟨"left", "ReadVariableOp", ["w_resource"]⟩]
  functions :=
    [⟨"__inference_learn_1",
      [⟨"out", "Identity", ["step", "sum", "w"]⟩, ⟨"step", "Mul", ["sum", "w"]⟩]⟩]

/-- The graph with its nodes the other way round. -/
def operandsFirst : SavedGraph where
  nodes := outputsFirst.nodes.reverse
  functions := outputsFirst.functions.map fun function =>
    { function with nodes := function.nodes.reverse }

theorem rearranged_operandsFirst : Rearranged outputsFirst operandsFirst where
  nodes := outputsFirst.nodes.reverse_perm.symm
  functions := .cons ⟨rfl, (List.reverse_perm _).symm⟩ .nil

theorem orderly_outputsFirst : ∀ nodes ∈ outputsFirst.lists {}, Orderly {} nodes := by
  intro nodes hnodes
  rcases mem_lists_iff.mp hnodes with rfl | ⟨function, hfunction, -, rfl⟩
  · exact orderly_of_rank (by decide) (fun node => node.inputs.length) (by decide)
  · rw [List.mem_singleton.mp hfunction]
    exact orderly_of_rank (by decide) (fun node => node.inputs.length) (by decide)

theorem injOn_identifierOf_outputsFirst : Set.InjOn identifierOf (outputsFirst.Mentions {}) := by
  let names := ["sum", "left", "right", "missing", "w_resource", "out", "step", "w"]
  have hnames : ∀ name, outputsFirst.Mentions {} name → name ∈ names := by
    rintro name ⟨nodes, hnodes, node, hnode, hname⟩
    rw [← List.mem_cons] at hname
    have hmain : ∀ node ∈ outputsFirst.nodes,
        ∀ name ∈ node.cleanedName :: node.inputs.map cleanName, name ∈ names := by
      decide
    have hfunctions : ∀ function ∈ outputsFirst.functions, ∀ node ∈ function.nodes,
        ∀ name ∈ node.cleanedName :: node.inputs.map cleanName, name ∈ names := by
      decide
    rcases mem_lists_iff.mp hnodes with rfl | ⟨function, hfunction, -, rfl⟩
    · exact hmain node hnode name hname
    · exact hfunctions function hfunction node hnode name hname
  have hinjective : ∀ name ∈ names, ∀ other ∈ names,
      identifierOf name = identifierOf other → name = other := by
    decide
  exact fun name hname other hother =>
    hinjective name (hnames name hname) other (hnames other hother)

theorem reconstruct_perm_operandsFirst :
    (∀ nodes ∈ outputsFirst.lists {}, Orderly {} nodes) ∧
      Set.InjOn identifierOf (outputsFirst.Mentions {}) ∧ Rearranged outputsFirst operandsFirst ∧
      (outputsFirst.reconstruct {}).Perm (operandsFirst.reconstruct {}) :=
  ⟨orderly_outputsFirst, injOn_identifierOf_outputsFirst, rearranged_operandsFirst,
    reconstruct_perm orderly_outputsFirst injOn_identifierOf_outputsFirst rearranged_operandsFirst⟩

end SavedGraph
end LayerNet
