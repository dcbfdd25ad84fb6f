import LayerNet.Proofs.Reconstruction.Variables

/-!
# What is left as a placeholder

An operand that is looked at has a variable, is in progress, has a node in the list at hand, is
named like a resource, or has nothing of all that.  It is left as a placeholder in the second case,
where it lies on a circle of references with the node that it is an operand of, and in the last.  In
the last case it gets no variable for as long as the list is worked on.

Main definitions:

- `LeftOpen`: why an operand is left as a placeholder.
- `FirstArgument`: what an operand is written as, before placeholders are filled in.

Main results:

- `Session.Settled.firstArguments`: how the operands of a node are written.
- `SavedGraph.firstArguments_of_distinct`: the same for every list of a graph; without circles no
  operand that has a node is left.
-/

namespace LayerNet

open Relation

/-! ## Reasons -/

section Reasons

variable (options : ReconstructionOptions) (nodes : List GraphNode) (all : List Variable)

/-- Why an operand of a node of a list is left as a placeholder when there are some variables: it
names a node from which references lead back to the node that it is an operand of; or it names no
node, no variable has its name, and it is not named like a resource. -/
inductive LeftOpen (node : GraphNode) (operand : String) : Prop where
  | circle {other : GraphNode} (hname : other.cleanedName = operand)
      (hthere : options.Refers nodes node other)
      (hback : ReflTransGen (options.Refers nodes) other node) : LeftOpen node operand
  | nothing (hnode : ¬ Session.NamesNode options nodes operand)
      (hvariable : operand ∉ all.map Variable.node)
      (hresource : Text.endsWith resourceSuffix operand = false) : LeftOpen node operand

/-- What an operand of a node is written as before placeholders are filled in: the identifier of a
variable with its name, or a placeholder, which has a reason. -/
inductive FirstArgument (node : GraphNode) (operand : String) : Argument → Prop where
  | identifier {v : Variable} (hmem : v ∈ all) (hname : v.node = operand) :
      FirstArgument node operand (.identifier v.identifier)
  | placeholder (hopen : LeftOpen options nodes all node operand) :
      FirstArgument node operand (.placeholder operand)

variable {options nodes all}

/-- Without circles an operand that names a node is not left. -/
theorem LeftOpen.not_namesNode {node : GraphNode} {operand : String}
    (h : LeftOpen options nodes all node operand)
    (hacyclic : ∀ other, ¬ TransGen (options.Refers nodes) other other) :
    ¬ Session.NamesNode options nodes operand := by
  cases h with
  | circle hname hthere hback => exact absurd (TransGen.head' hthere hback) (hacyclic node)
  | nothing hnode hvariable hresource => exact hnode

/-- The operands that are left are those with placeholders. -/
theorem leftOpen_of_firstArguments {node : GraphNode} {operands : List String}
    {arguments : List Argument}
    (h : List.Forall₂ (FirstArgument options nodes all node) operands arguments) {operand : String}
    (hoperand : operand ∈ arguments.filterMap Argument.operand?) :
    LeftOpen options nodes all node operand := by
  rcases List.mem_filterMap.mp hoperand with ⟨argument, hargument, hplaceholder⟩
  rcases exists_of_forall₂ h.flip hargument with ⟨other, -, hfirst⟩
  cases hfirst with
  | identifier hmem hname => cases hplaceholder
  | placeholder hopen =>
      cases hplaceholder
      exact hopen

end Reasons

/-! ## One list -/

namespace Session

variable {options : ReconstructionOptions} {nodes : List GraphNode} {start : Session}
  {node : GraphNode} {name : String}

/-- An operand that has nothing when it is looked at has nothing when the list is done. -/
theorem Settled.not_mem_places_of_missing (h : start.Settled)
    (hnode : options.nodeOf? nodes name = none)
    (hresource : Text.endsWith resourceSuffix name = false) (hnew : name ∉ start.places) :
    name ∉ (start.defineAll options nodes).places := by
  rw [h.mem_places_defineAll]
  rintro (hstart | ⟨other, hwants, hname⟩ | ⟨hends, -⟩)
  · exact hnew hstart
  · exact ReconstructionOptions.nodeOf?_eq_none_iff.mp hnode other hwants hname
  · exact absurd (hends.symm.trans hresource) (by decide)

/-- An answer to an operand, as it looks when the list is done. -/
theorem Settled.firstArgument (h : start.Settled) {before : List Variable}
    (hbefore : before ⊆ (start.defineAll options nodes).toList) (hwants : options.Wants nodes node)
    (hoperand : name ∈ node.inputs.map cleanName) {argument : Argument}
    (hanswer : Answers options nodes start before node name argument) :
    FirstArgument options nodes (start.defineAll options nodes).toList node name argument := by
  cases hanswer with
  | identifier hmem hname => exact .identifier (hbefore hmem) hname
  | @cycle upstream hupstream hname hway =>
      have hrefers : options.Refers nodes node upstream := ⟨hwants, hupstream, hname ▸ hoperand⟩
      exact .placeholder (.circle hname hrefers hway)
  | missing hnode hresource hnew =>
      have hplace : name ∉ (start.defineAll options nodes).places :=
        h.not_mem_places_of_missing hnode hresource hnew
      refine .placeholder (.nothing ?_ ?_ hresource)
      · rintro ⟨other, hother, hname⟩
        exact ReconstructionOptions.nodeOf?_eq_none_iff.mp hnode other hother hname
      · rw [h.defineAll.coherent.mem_places_iff] at hplace
        simpa using hplace

/-- If no name is repeated in a list, each of its nodes that had no variable has got one, written
with an argument for each of its operands. -/
theorem Settled.firstArguments (h : start.Settled) (hwants : options.Wants nodes node)
    (hdistinct : (nodes.map GraphNode.cleanedName).Nodup)
    (hnew : node.cleanedName ∉ start.toList.map Variable.node) :
    ∃ v ∈ (start.defineAll options nodes).toList, v.node = node.cleanedName ∧
      ∃ arguments,
        List.Forall₂ (FirstArgument options nodes (start.defineAll options nodes).toList node)
          (node.inputs.map cleanName) arguments ∧
        v.statement = statementText v.identifier node.op v.node (arguments.map Argument.text) ∧
        v.unresolved = arguments.filterMap Argument.operand? := by
  rcases h.defineAll.coherent.mem_places_iff.mp (h.mem_places_of_wants hwants) with ⟨v, hv, hname⟩
  refine ⟨v, hv, hname, ?_⟩
  rcases h.exists_written_defineAll hv with hstart | ⟨before, hbefore, hwritten⟩
  · exact absurd (List.mem_map.mpr ⟨v, hstart, hname⟩) hnew
  · cases hwritten with
    | @node other arguments hother hname' hanswers hstatement hunresolved =>
        obtain rfl : other = node :=
          List.inj_on_of_nodup_map hdistinct hother.1 hwants.1 (hname'.trans hname)
        refine ⟨arguments, ?_, hstatement, hunresolved⟩
        refine ((List.forall₂_and_left _ _).mpr ⟨fun _ => id, hanswers⟩).imp ?_
        rintro operand argument ⟨hoperand, hanswer⟩
        exact h.firstArgument hbefore hwants hoperand hanswer
    | handle hresource hnone hstatement hunresolved =>
        rw [ReconstructionOptions.nodeOf?_eq_none_iff] at hnone
        exact absurd hname.symm (hnone node hwants)

end Session

/-! ## Graphs -/

namespace SavedGraph

variable {graph : SavedGraph} {options : ReconstructionOptions}

/-- What the work on one of the lists brings is among the variables of the graph. -/
theorem subset_unfilled {done later : List (List GraphNode)} {nodes : List GraphNode}
    (hlists : graph.lists options = done ++ nodes :: later) :
    ((Session.defineLists options .empty done).defineAll options nodes).toList ⊆
      graph.unfilled options := by
  have hfull : graph.fullSession options = Session.defineLists options
      ((Session.defineLists options .empty done).defineAll options nodes) later := by
    rw [fullSession_eq_defineLists, hlists, Session.defineLists, List.foldl_append, List.foldl_cons]
    rfl
  rw [unfilled, hfull]
  exact Session.prefix_defineLists.subset

/-- What is unresolved in the end was so before placeholders were filled in. -/
theorem mem_unresolved_of_mem_allVariables {w v : Variable} (hw : w ∈ graph.allVariables options)
    (hv : v ∈ graph.unfilled options) (hname : w.node = v.node) {operand : String}
    (hoperand : operand ∈ w.unresolved) : operand ∈ v.unresolved := by
  rw [allVariables_eq_map] at hw
  rcases List.mem_map.mp hw with ⟨u, hu, rfl⟩
  rw [Variable.node_filled] at hname
  obtain rfl : u = v := List.inj_on_of_nodup_map nodup_names_unfilled hu hv hname
  rw [Variable.filled_eq] at hoperand
  exact List.mem_of_mem_filter hoperand

/-- If in no list a name is repeated, the variable of a node that is declared in the work on a list
is written with an argument for each operand, and a placeholder among them has one of two reasons.
If the references in the list do not go in circles, no operand that names one of its nodes is left,
neither then nor in the end. -/
theorem firstArguments_of_distinct {graph : SavedGraph} {options : ReconstructionOptions}
    (hdistinct : ∀ nodes ∈ graph.lists options, (nodes.map GraphNode.cleanedName).Nodup)
    {done later : List (List GraphNode)} {nodes : List GraphNode}
    (hlists : graph.lists options = done ++ nodes :: later) {node : GraphNode}
    (hwants : options.Wants nodes node)
    (hnew : node.cleanedName ∉
      (Session.defineLists options .empty done).toList.map Variable.node) :
    ∃ v ∈ graph.unfilled options, v.node = node.cleanedName ∧
      (∃ arguments,
        List.Forall₂
          (FirstArgument options nodes
            ((Session.defineLists options .empty done).defineAll options nodes).toList node)
          (node.inputs.map cleanName) arguments ∧
        v.statement = statementText v.identifier node.op v.node (arguments.map Argument.text) ∧
        v.unresolved = arguments.filterMap Argument.operand?) ∧
      ((∀ other, ¬ TransGen (options.Refers nodes) other other) →
        ∀ w ∈ graph.unfilled options ++ graph.allVariables options, w.node = node.cleanedName →
          ∀ operand ∈ w.unresolved, ¬ Session.NamesNode options nodes operand) := by
  have hsettled : (Session.defineLists options .empty done).Settled :=
    Session.settled_empty.defineLists
  have hnodes : nodes ∈ graph.lists options := by
    rw [hlists]
    exact List.mem_append_right done List.mem_cons_self
  rcases hsettled.firstArguments hwants (hdistinct nodes hnodes) hnew with
    ⟨v, hv, hname, arguments, hfirst, hstatement, hunresolved⟩
  have hv : v ∈ graph.unfilled options := subset_unfilled hlists hv
  refine ⟨v, hv, hname, ⟨arguments, hfirst, hstatement, hunresolved⟩, ?_⟩
  intro hacyclic w hw hsame operand hoperand
  have hleft : operand ∈ v.unresolved := by
    rcases List.mem_append.mp hw with hw | hw
    · obtain rfl : w = v :=
        List.inj_on_of_nodup_map nodup_names_unfilled hw hv (hsame.trans hname.symm)
      exact hoperand
    · exact mem_unresolved_of_mem_allVariables hw hv (hsame.trans hname.symm) hoperand
  rw [hunresolved] at hleft
  exact (leftOpen_of_firstArguments hfirst hleft).not_namesNode hacyclic

/-- A node that refers to itself, to the node of another list and to nothing. -/
def selfish : GraphNode :=
  ⟨"c", "Sub", ["c", "a:1", "nowhere"]⟩

/-- A graph with a circle in its main list, and a function with that node. -/
def knotted : SavedGraph where
  nodes := [⟨"a", "AddV2", ["b:0", "gone"]⟩, ⟨"b", "Mul", ["^a", "w_resource"]⟩]
  functions := [⟨"__inference_learn_1", [selfish]⟩]

theorem lists_knotted : knotted.lists {} = [knotted.nodes] ++ [selfish] :: [] := by
  cbv

/-- The main list of the graph brings no variable for the node of its function. -/
theorem not_mem_names_knotted : selfish.cleanedName ∉
    (Session.defineLists {} .empty [knotted.nodes]).toList.map Variable.node := by
  have hsettled : (Session.defineLists {} .empty [knotted.nodes]).Settled :=
    Session.settled_empty.defineLists
  have hother : ∀ node ∈ knotted.nodes, node.cleanedName ≠ selfish.cleanedName := by decide
  have hplace : selfish.cleanedName ∉
      (Session.defineLists {} .empty [knotted.nodes]).places := by
    rw [Session.settled_empty.mem_places_defineLists]
    rintro (hstart | ⟨nodes, hnodes, node, hwants, hname⟩ | ⟨hends, -⟩)
    · exact Session.not_mem_places_empty hstart
    · obtain rfl := List.mem_singleton.mp hnodes
      exact hother node hwants.1 hname
    · exact absurd hends (by decide)
  rw [hsettled.coherent.mem_places_iff] at hplace
  simpa using hplace

theorem firstArguments_knotted :
    (∀ nodes ∈ knotted.lists {}, (nodes.map GraphNode.cleanedName).Nodup) ∧
      knotted.lists {} = [knotted.nodes] ++ [selfish] :: [] ∧
      ReconstructionOptions.Wants {} [selfish] selfish ∧
      ∃ v ∈ knotted.unfilled {}, v.node = "c" ∧ ∃ arguments,
        List.Forall₂
          (FirstArgument {} [selfish]
            ((Session.defineLists {} .empty [knotted.nodes]).defineAll {} [selfish]).toList selfish)
          ["c", "a", "nowhere"] arguments ∧
        v.unresolved = arguments.filterMap Argument.operand? := by
  have hdistinct : ∀ nodes ∈ knotted.lists {}, (nodes.map GraphNode.cleanedName).Nodup := by
    rw [lists_knotted]
    decide
  have hwants : ReconstructionOptions.Wants {} [selfish] selfish := ⟨List.mem_cons_self, by decide⟩
  rcases firstArguments_of_distinct hdistinct lists_knotted hwants not_mem_names_knotted with
    ⟨v, hv, hname, ⟨arguments, hfirst, -, hunresolved⟩, -⟩
  exact ⟨hdistinct, lists_knotted, hwants, v, hv, hname, arguments, hfirst, hunresolved⟩

end SavedGraph
end LayerNet
