import LayerNet.Proofs.Reconstruction.Variables

/-!
# Names of internal calls

A node that is named like an internal call has no statement of its own, whether it gets its turn or
is an operand.  Only handles are declared whatever their names begin with: an operand that is named
like a resource has one if no node stands for it, and a node that is an internal call stands for
nothing.  So there is one kind of variable that has the name of an internal call.

Main definitions:

- `SavedGraph.hiddenSession`: the session with the variables that are left out of a reconstruction.
- `SavedGraph.shownLists`: the lists whose variables are not left out.

Main results:

- `mem_names_reconstruct_iff`: the names of the reconstructed variables.
- `internal_names_reconstruct`: which names of internal calls are among them, and with what
  statements.
-/

namespace LayerNet
namespace SavedGraph

variable (graph : SavedGraph) (options : ReconstructionOptions)

/-! ## Variables that are left out -/

/-- The session with the variables that are left out: those of the main graph, unless it is
wanted. -/
def hiddenSession : Session :=
  if options.includeMainGraph then .empty else graph.mainSession options

/-- The lists whose variables are not left out. -/
def shownLists : List (List GraphNode) :=
  if options.includeMainGraph then graph.lists options
  else (graph.functionsMatching options.functionMarker).map GraphFunction.nodes

variable {graph options} {name : String}

theorem shownLists_subset : graph.shownLists options ⊆ graph.lists options := by
  unfold shownLists
  split
  · exact List.Subset.refl _
  · exact List.subset_cons_self _ _

theorem settled_hiddenSession (graph : SavedGraph) (options : ReconstructionOptions) :
    (graph.hiddenSession options).Settled := by
  unfold hiddenSession
  split
  · exact Session.settled_empty
  · exact Session.settled_empty.defineAll

/-- The work on the lists whose variables are not left out comes last. -/
theorem fullSession_eq_shown (graph : SavedGraph) (options : ReconstructionOptions) :
    graph.fullSession options =
      Session.defineLists options (graph.hiddenSession options) (graph.shownLists options) := by
  rw [fullSession_eq_defineLists]
  unfold hiddenSession shownLists
  split <;> rfl

/-- What is not left out are the variables behind those that are. -/
theorem exists_reconstruct_eq (graph : SavedGraph) (options : ReconstructionOptions) :
    ∃ rest, (graph.hiddenSession options).toList ++ rest = graph.unfilled options ∧
      graph.reconstruct options = rest.map (Variable.filled (graph.unfilled options)) := by
  unfold reconstruct hiddenSession
  split
  · exact ⟨graph.unfilled options, rfl, allVariables_eq_map⟩
  · rcases graph.prefix_fullSession options with ⟨rest, hrest⟩
    exact ⟨rest, hrest, drop_allVariables hrest⟩

/-- The names of the reconstructed variables are those of all variables but the ones left out. -/
theorem mem_names_reconstruct_iff : name ∈ (graph.reconstruct options).map Variable.node ↔
    name ∈ (graph.unfilled options).map Variable.node ∧
      name ∉ (graph.hiddenSession options).places := by
  rcases graph.exists_reconstruct_eq options with ⟨rest, hrest, hreconstruct⟩
  have hhidden : name ∈ (graph.hiddenSession options).places ↔
      name ∈ (graph.hiddenSession options).toList.map Variable.node := by
    rw [(graph.settled_hiddenSession options).coherent.mem_places_iff, List.mem_map]
  have hnames : (graph.reconstruct options).map Variable.node = rest.map Variable.node := by
    simp [hreconstruct, Function.comp_def]
  have hnodup := @nodup_names_unfilled graph options
  rw [← hrest, List.map_append] at hnodup
  rw [hnames, hhidden, ← hrest, List.map_append, List.mem_append]
  constructor
  · intro hmem
    exact ⟨Or.inr hmem, fun hleft => (List.disjoint_of_nodup_append hnodup) hleft hmem⟩
  · rintro ⟨hmem, hnot⟩
    exact hmem.resolve_left hnot

/-! ## Internal calls -/

theorem not_namesNode_of_isInternal {nodes : List GraphNode} (h : options.isInternal name = true) :
    ¬ Session.NamesNode options nodes name := by
  rintro ⟨node, hwants, rfl⟩
  exact absurd (h.symm.trans hwants.2) (by decide)

/-- An operand that is named both like an internal call and like a resource becomes a handle,
whatever nodes there are. -/
theorem resolve_of_isInternal {nodes : List GraphNode} {s : Session} (hnew : name ∉ s.places)
    (hprogress : name ∉ s.inProgress) (h : options.isInternal name = true)
    (hresource : Text.endsWith resourceSuffix name = true) :
    s.resolve options nodes name = .handle := by
  have hnode : options.nodeOf? nodes name = none := if_pos h
  simp [Session.resolve, Session.find?_eq_none_iff.mpr hnew, hprogress, hnode, hresource]

/-- A variable that has the name of an internal call has the statement of a handle. -/
theorem handle_of_isInternal {v : Variable} (hv : v ∈ graph.reconstruct options)
    (h : options.isInternal v.node = true) :
    v.statement = statementText v.identifier handleOp v.node [] ∧ v.unresolved = [] := by
  rcases exists_filled_of_mem_reconstruct hv with ⟨u, hu, rfl⟩
  rcases exists_written_unfilled hu with ⟨nodes, hnodes, middle, before, -, hwritten⟩
  rw [Variable.node_filled] at h
  cases hwritten with
  | node hwants hname => exact absurd ⟨_, hwants, hname⟩ (not_namesNode_of_isInternal h)
  | handle hresource hnone hstatement hunresolved =>
      rw [Variable.filled_of_unresolved_eq_nil hunresolved]
      exact ⟨hstatement, hunresolved⟩

/-- The names of internal calls that have variables are those of the resources among the operands of
the nodes that were declared, if they had none before. -/
theorem mem_names_reconstruct_iff_of_isInternal (h : options.isInternal name = true) :
    name ∈ (graph.reconstruct options).map Variable.node ↔
      Session.NamesResource
          (Session.BuildsAmong options (graph.hiddenSession options)
            (graph.shownLists options)) name ∧
        name ∉ (graph.hiddenSession options).places := by
  have hplaces : name ∈ (graph.unfilled options).map Variable.node ↔
      name ∈ (graph.fullSession options).places := by
    rw [(graph.settled_fullSession options).coherent.mem_places_iff, List.mem_map]
    rfl
  have hnone : ¬ ∃ nodes ∈ graph.shownLists options, Session.NamesNode options nodes name := by
    rintro ⟨nodes, -, hnames⟩
    exact not_namesNode_of_isInternal h hnames
  rw [mem_names_reconstruct_iff, hplaces, fullSession_eq_shown,
    (graph.settled_hiddenSession options).mem_places_defineLists, or_iff_right hnone]
  constructor
  · rintro ⟨hplace, hnot⟩
    exact ⟨hplace.resolve_left hnot, hnot⟩
  · rintro ⟨hresource, hnot⟩
    exact ⟨Or.inr hresource, hnot⟩

/-- No variable has the name of an internal call if no operand is named both like an internal call
and like a resource. -/
theorem isInternal_eq_false_of_operands
    (hoperands : ∀ nodes ∈ graph.lists options, ∀ node ∈ nodes, ∀ operand ∈ node.inputs,
      options.isInternal (cleanName operand) = true →
        Text.endsWith resourceSuffix (cleanName operand) = false)
    {v : Variable} (hv : v ∈ graph.reconstruct options) : options.isInternal v.node = false := by
  rw [← Bool.not_eq_true]
  intro hinternal
  rcases (mem_names_reconstruct_iff_of_isInternal hinternal).mp (List.mem_map_of_mem hv) with
    ⟨⟨hresource, node, hbuilds, hoperand⟩, -⟩
  rcases (graph.settled_hiddenSession options).exists_wants_of_buildsAmong hbuilds with
    ⟨nodes, hnodes, hwants⟩
  rcases List.mem_map.mp hoperand with ⟨operand, hmem, hname⟩
  have hnot := hoperands nodes (shownLists_subset hnodes) node hwants.1 operand hmem
    (hname ▸ hinternal)
  rw [hname, hresource] at hnot
  cases hnot

/-- A variable that has the name of an internal call is a handle, also where there is a node of that
name.  There is one exactly for the resources among the operands of declared nodes, and there is
none if no operand is named both like an internal call and like a resource. -/
theorem internal_names_reconstruct (graph : SavedGraph) (options : ReconstructionOptions) :
    (∀ v ∈ graph.reconstruct options, options.isInternal v.node = true →
        v.statement = statementText v.identifier handleOp v.node [] ∧ v.unresolved = []) ∧
      (∀ name, options.isInternal name = true →
        (name ∈ (graph.reconstruct options).map Variable.node ↔
          Session.NamesResource
              (Session.BuildsAmong options (graph.hiddenSession options) (graph.shownLists options))
              name ∧
            name ∉ (graph.hiddenSession options).places)) ∧
      ((∀ nodes ∈ graph.lists options, ∀ node ∈ nodes, ∀ operand ∈ node.inputs,
          options.isInternal (cleanName operand) = true →
            Text.endsWith resourceSuffix (cleanName operand) = false) →
        ∀ v ∈ graph.reconstruct options, options.isInternal v.node = false) :=
  ⟨fun _ => handle_of_isInternal, fun _ => mem_names_reconstruct_iff_of_isInternal,
    fun hoperands _ => isInternal_eq_false_of_operands hoperands⟩

/-- A function with an internal call that is named like a resource, and a node that it is the
operand of. -/
def calledResource : GraphFunction where
  name := "__inference_learn_1"
  nodes :=
    [⟨"PartitionedCall_resource", "PartitionedCall", []⟩,
     ⟨"step", "Identity", ["PartitionedCall_resource"]⟩]

/-- A graph with just that function. -/
def calledGraph : SavedGraph where
  functions := [calledResource]

/-- The operand is declared as a handle, though the node of its name is left out. -/
theorem internal_name_calledGraph :
    ∃ v ∈ calledGraph.reconstruct {}, ReconstructionOptions.isInternal {} v.node = true := by
  let step : GraphNode := ⟨"step", "Identity", ["PartitionedCall_resource"]⟩
  have hlists : calledGraph.shownLists {} = [calledResource.nodes] := by
    have hmarked : calledGraph.functionsMatching "__inference_learn" = [calledResource] :=
      List.mergeSort_singleton _
    simp [shownLists, hmarked]
  have hskip : Stage.Step {} calledResource.nodes ⟨calledResource.nodes, .empty, []⟩
      ⟨[step], .empty, []⟩ :=
    .skip (Or.inl (by decide))
  have hturn : Stage.Step {} calledResource.nodes ⟨[step], .empty, []⟩
      ⟨[], Session.empty.enter step.cleanedName, [Frame.start step]⟩ :=
    .root (by decide) (by simp [Session.empty])
  have hoperand : Stage.Step {} calledResource.nodes
      ⟨[], Session.empty.enter step.cleanedName, [Frame.start step]⟩
      ⟨[], _, [(Frame.start step).withArgument _ []]⟩ :=
    .handle rfl (resolve_of_isInternal (by simp [Session.empty, Session.enter])
      (by simp [Session.empty, Session.enter]; decide) (by decide) (by decide))
  have hbuilds : Session.BuildsAmong {} (calledGraph.hiddenSession {}) (calledGraph.shownLists {})
      step := by
    rw [hlists]
    exact .here
      ⟨_, _, _, _, ((Relation.ReflTransGen.single hskip).tail hturn).tail hoperand, rfl, rfl⟩
  have hname : "PartitionedCall_resource" ∈ (calledGraph.reconstruct {}).map Variable.node := by
    rw [mem_names_reconstruct_iff_of_isInternal (by decide)]
    refine ⟨⟨by decide, step, hbuilds, by decide⟩, ?_⟩
    simp [hiddenSession, mainSession, Session.defineAll, Session.empty, calledGraph]
  rcases List.mem_map.mp hname with ⟨v, hv, hnode⟩
  refine ⟨v, hv, ?_⟩
  rw [hnode]
  decide

end SavedGraph
end LayerNet
