import LayerNet.Proofs.Reconstruction.Filling
import LayerNet.Proofs.Reconstruction.Lists

/-!
# The variables of a graph

What the reconstruction of a graph gives, of whatever kind the graph is: nodes may share names and
operands, refer to each other in cycles, and lists may refer to nodes of other ones.

Main results:

- `SavedGraph.names_allVariables`: which names have variables, each of them one.
- `SavedGraph.identifiers_allVariables`: identifiers are not repeated and may stand as such.
- `SavedGraph.statements_allVariables`: every statement is that of a node, with an argument for each
  operand, or that of a handle.
-/

namespace LayerNet
namespace SavedGraph

variable (graph : SavedGraph) (options : ReconstructionOptions)

/-- The variables before placeholders are filled in. -/
def unfilled : List Variable :=
  (graph.fullSession options).toList

variable {graph options}

/-- The last pass fills in placeholders and leaves names, identifiers and order as they are. -/
theorem allVariables_eq_map : graph.allVariables options =
    (graph.unfilled options).map (Variable.filled (graph.unfilled options)) :=
  (graph.settled_fullSession options).coherent.fillIn_eq_map

theorem map_node_allVariables : (graph.allVariables options).map Variable.node =
    (graph.unfilled options).map Variable.node := by
  simp [allVariables_eq_map, Function.comp_def]

theorem map_identifier_allVariables : (graph.allVariables options).map Variable.identifier =
    (graph.unfilled options).map Variable.identifier := by
  simp [allVariables_eq_map, Function.comp_def]

theorem nodup_names_unfilled : ((graph.unfilled options).map Variable.node).Nodup :=
  (graph.settled_fullSession options).coherent.nodup_names

/-- Every variable is made from a node of one of the lists, or from a name, when there were only the
variables before it. -/
theorem written_unfilled :
    EachBehind [] (Session.WrittenAmong options (graph.lists options))
      (graph.unfilled options) := by
  rw [unfilled, fullSession_eq_defineLists]
  exact Session.settled_empty.written_defineLists

/-- Every variable was written in the work on one of the lists, when those before it were there. -/
theorem exists_written_unfilled {v : Variable} (hv : v ∈ graph.unfilled options) :
    ∃ nodes ∈ graph.lists options, ∃ (middle : Session) (before : List Variable),
      before ⊆ graph.unfilled options ∧ Written options nodes middle before v := by
  rcases written_unfilled.exists_before List.nil_prefix hv with
    hnone | ⟨before, hbefore, nodes, hnodes, middle, hwritten⟩
  · exact absurd hnone List.not_mem_nil
  · exact ⟨nodes, hnodes, middle, before, hbefore, hwritten⟩

/-- Without the main graph, the variables are those behind the ones of the main graph. -/
theorem drop_allVariables {rest : List Variable}
    (hrest : (graph.mainSession options).toList ++ rest = graph.unfilled options) :
    (graph.allVariables options).drop (graph.mainSession options).declared.size =
      rest.map (Variable.filled (graph.unfilled options)) := by
  have hsize : (graph.mainSession options).declared.size =
      (graph.mainSession options).toList.length := rfl
  rw [allVariables_eq_map, hsize, ← List.map_drop]
  nth_rewrite 2 [← hrest]
  rw [List.drop_left]

/-! ## Names -/

theorem mem_names_unfilled {name : String} : name ∈ (graph.unfilled options).map Variable.node ↔
    (∃ nodes ∈ graph.lists options, Session.NamesNode options nodes name) ∨
      Session.NamesResource (graph.Builds options) name := by
  have hplaces : name ∈ (graph.fullSession options).places ↔
      ∃ v ∈ graph.unfilled options, v.node = name :=
    (graph.settled_fullSession options).coherent.mem_places_iff
  rw [List.mem_map, ← hplaces, fullSession_eq_defineLists,
    Session.settled_empty.mem_places_defineLists]
  exact or_iff_right Session.not_mem_places_empty

/-- Each name has one variable, and the names are those of the nodes of all lists, but for internal
calls, and those of the resources among the operands of the nodes that were declared.  A resource
without a node has a handle. -/
theorem names_allVariables (graph : SavedGraph) (options : ReconstructionOptions) :
    ((graph.allVariables options).map Variable.node).Nodup ∧
      (∀ name, name ∈ (graph.allVariables options).map Variable.node ↔
        (∃ nodes ∈ graph.lists options, Session.NamesNode options nodes name) ∨
          Session.NamesResource (graph.Builds options) name) ∧
      ∀ v ∈ graph.allVariables options,
        (∃ nodes ∈ graph.lists options, Session.NamesNode options nodes v.node) ∨
          Text.endsWith resourceSuffix v.node = true ∧
            v.statement = statementText v.identifier handleOp v.node [] ∧ v.unresolved = [] := by
  refine ⟨?_, fun name => ?_, fun v hv => ?_⟩
  · rw [map_node_allVariables]
    exact nodup_names_unfilled
  · rw [map_node_allVariables]
    exact mem_names_unfilled
  · rw [allVariables_eq_map] at hv
    rcases List.mem_map.mp hv with ⟨u, hu, rfl⟩
    rcases exists_written_unfilled hu with ⟨nodes, hnodes, middle, before, -, hwritten⟩
    cases hwritten with
    | node hwants hname hanswers hstatement hunresolved =>
        rw [Variable.node_filled]
        exact Or.inl ⟨nodes, hnodes, _, hwants, hname⟩
    | handle hresource hnone hstatement hunresolved =>
        rw [Variable.filled_of_unresolved_eq_nil hunresolved]
        exact Or.inr ⟨hresource, hstatement, hunresolved⟩

/-! ## Identifiers -/

/-- What is shown was built. -/
theorem reconstruct_subset : graph.reconstruct options ⊆ graph.allVariables options := by
  unfold reconstruct
  split
  · exact List.Subset.refl _
  · exact List.drop_subset _ _

/-- A reconstructed variable is one of all variables, with its placeholders filled in. -/
theorem exists_filled_of_mem_reconstruct {v : Variable} (hv : v ∈ graph.reconstruct options) :
    ∃ u ∈ graph.unfilled options, u.filled (graph.unfilled options) = v := by
  have hmem : v ∈ graph.allVariables options := reconstruct_subset hv
  rw [allVariables_eq_map] at hmem
  exact List.mem_map.mp hmem

theorem namedAfter_of_mem_unfilled {v : Variable} (hv : v ∈ graph.unfilled options) :
    NamedAfter v.node v.identifier :=
  (graph.settled_fullSession options).coherent.namedAfter v hv

/-- Every identifier is named after its node, also when it was filled in somewhere. -/
theorem namedAfter_of_mem_allVariables {v : Variable} (hv : v ∈ graph.allVariables options) :
    NamedAfter v.node v.identifier := by
  rw [allVariables_eq_map] at hv
  rcases List.mem_map.mp hv with ⟨u, hu, rfl⟩
  rw [Variable.node_filled, Variable.identifier_filled]
  exact namedAfter_of_mem_unfilled hu

/-- No identifier is repeated; each is made of the name of its node, with a number behind it if need
be, and may stand as one.  The search for an identifier ends in whatever state it begins. -/
theorem identifiers_allVariables (graph : SavedGraph) (options : ReconstructionOptions) :
    ((graph.allVariables options).map Variable.identifier).Nodup ∧
      (∀ v ∈ graph.allVariables options,
        NamedAfter v.node v.identifier ∧ IsIdentifier v.identifier) ∧
      ∀ (s : Session) (name : String),
        NameRegistry.Search s.identifiers.toList (identifierOf name)
          (identifierOf name, s.suffixes) (s.freshIdentifier name) := by
  have hcoherent : (graph.fullSession options).Coherent :=
    (graph.settled_fullSession options).coherent
  refine ⟨?_, fun v hv => ?_, Session.search_freshIdentifier⟩
  · rw [map_identifier_allVariables]
    exact hcoherent.nodup_identifiers
  · have hnamed : NamedAfter v.node v.identifier := namedAfter_of_mem_allVariables hv
    exact ⟨hnamed, hnamed.isIdentifier⟩

/-! ## Statements -/

section Statements

/-- Whether no operation, name or operand in the lists has in it what placeholders begin with. -/
def Plain (graph : SavedGraph) (options : ReconstructionOptions) : Prop :=
  ∀ nodes ∈ graph.lists options, ∀ node ∈ nodes, ¬ placeholderOpening.toList <:+: node.op.toList ∧
    ¬ placeholderOpening.toList <:+: node.name.toList ∧
    ∀ operand ∈ node.inputs, ¬ placeholderOpening.toList <:+: operand.toList

/-- What an operand of a variable is supplied with: the identifier of the variable that has the
operand's name; that of another variable, the resource with the operand's name; or a placeholder, if
no other variable is that resource. -/
inductive Supplies (all : List Variable) (v : Variable) (operand : String) : Argument → Prop where
  | identifier {w : Variable} (hmem : w ∈ all) (hname : w.node = operand) :
      Supplies all v operand (.identifier w.identifier)
  | resource {w : Variable} (hmem : w ∈ all) (hname : w.node = operand ++ resourceSuffix)
      (hother : w ≠ v) : Supplies all v operand (.identifier w.identifier)
  | placeholder (hnone : ∀ w ∈ all, w.node = operand ++ resourceSuffix → w = v) :
      Supplies all v operand (.placeholder operand)

/-- Whether the statement of a variable is that of a node of one of the lists, with an argument for
each operand, or that of a handle. -/
inductive Stated (graph : SavedGraph) (options : ReconstructionOptions) (all : List Variable)
    (v : Variable) : Prop where
  | node {nodes : List GraphNode} {node : GraphNode} {arguments : List Argument}
      (hnodes : nodes ∈ graph.lists options) (hnode : node ∈ nodes)
      (hname : node.cleanedName = v.node)
      (hsupplies : List.Forall₂ (Supplies all v) (node.inputs.map cleanName) arguments)
      (hstatement : v.statement =
        statementText v.identifier node.op v.node (arguments.map Argument.text))
      (hunresolved : v.unresolved = arguments.filterMap Argument.operand?)
  | handle (hresource : Text.endsWith resourceSuffix v.node = true)
      (hstatement : v.statement = statementText v.identifier handleOp v.node [])
      (hunresolved : v.unresolved = [])

/-- Cleaning cuts off at both ends and changes nothing between them. -/
theorem infix_cleanName (reference : String) :
    (cleanName reference).toList <:+: reference.toList := by
  rw [cleanName, String.toList_ofList]
  unfold cleanChars
  split
  · rename_i cs hcs
    rw [hcs]
    exact (List.takeWhile_prefix _).isInfix.trans (List.suffix_cons '^' cs).isInfix
  · exact (List.takeWhile_prefix _).isInfix

/-- So cleaning does not bring about the beginning of a placeholder. -/
theorem not_opening_infix_cleanName {reference : String}
    (h : ¬ placeholderOpening.toList <:+: reference.toList) :
    ¬ placeholderOpening.toList <:+: (cleanName reference).toList :=
  fun hoccurs => h (hoccurs.trans (infix_cleanName reference))

variable {nodes : List GraphNode} {middle : Session} {before : List Variable} {node : GraphNode}

/-- Identifiers have no parentheses, which placeholders are told by. -/
theorem not_parenthesis_mem_identifier {v : Variable} (hv : v ∈ graph.unfilled options) :
    '(' ∉ v.identifier.toList := by
  intro hmem
  have hidentifier : IsIdentifier v.identifier := (namedAfter_of_mem_unfilled hv).isIdentifier
  exact absurd (hidentifier.plain '(' hmem) (by decide)

/-- Answers are harmless in a plain graph. -/
theorem harmless_of_answers {operand : String} {argument : Argument}
    (hbefore : before ⊆ graph.unfilled options)
    (hoperand : ¬ placeholderOpening.toList <:+: operand.toList)
    (h : Answers options nodes middle before node operand argument) : argument.Harmless := by
  cases h with
  | identifier hmem hname => exact not_parenthesis_mem_identifier (hbefore hmem)
  | cycle hwants hname hway => exact hoperand
  | missing hnode hresource hnew => exact hoperand

/-- An answer to an operand becomes what it is supplied with in the end. -/
theorem supplies_of_answers {operand : String} {argument : Argument} {u : Variable}
    (hu : u ∈ graph.unfilled options) (hbefore : before ⊆ graph.unfilled options)
    (h : Answers options nodes middle before node operand argument) :
    Supplies (graph.allVariables options) (u.filled (graph.unfilled options)) operand
      (argument.filled (graph.unfilled options) u.node) := by
  have hmem {w : Variable} (hw : w ∈ graph.unfilled options) :
      w.filled (graph.unfilled options) ∈ graph.allVariables options := by
    rw [allVariables_eq_map]
    exact List.mem_map_of_mem hw
  have hplaceholder : Supplies (graph.allVariables options) (u.filled (graph.unfilled options))
      operand ((Argument.placeholder operand).filled (graph.unfilled options) u.node) := by
    rw [Argument.filled]
    cases hresource : resourceFor (graph.unfilled options) u.node operand with
    | none =>
        refine .placeholder fun other hother hname => ?_
        rw [allVariables_eq_map] at hother
        rcases List.mem_map.mp hother with ⟨w, hw, rfl⟩
        rw [Variable.node_filled] at hname
        have heq : w.node = u.node := resourceFor_eq_none_iff.mp hresource w hw hname
        rw [List.inj_on_of_nodup_map nodup_names_unfilled hw hu heq]
    | some identifier =>
        rcases exists_of_resourceFor_eq_some hresource with ⟨w, hw, hname, hother, rfl⟩
        rw [Option.elim_some, ← Variable.identifier_filled (graph.unfilled options) w]
        refine .resource (hmem hw) ((Variable.node_filled _ _).trans hname) fun heq => hother ?_
        rw [← Variable.node_filled (graph.unfilled options) w, heq, Variable.node_filled]
  cases h with
  | @identifier w hw hname =>
      rw [Argument.filled, ← Variable.identifier_filled (graph.unfilled options) w]
      exact .identifier (hmem (hbefore hw)) ((Variable.node_filled _ _).trans hname)
  | cycle hwants hname hway => exact hplaceholder
  | missing hnode hresource hnew => exact hplaceholder

/-- The statement of a variable is that of a node or that of a handle. -/
theorem stated_filled (hplain : graph.Plain options) {u : Variable}
    (hu : u ∈ graph.unfilled options) :
    Stated graph options (graph.allVariables options) (u.filled (graph.unfilled options)) := by
  rcases exists_written_unfilled hu with ⟨nodes, hnodes, middle, before, hbefore, hwritten⟩
  cases hwritten with
  | handle hresource hnone hstatement hunresolved =>
      rw [Variable.filled_of_unresolved_eq_nil hunresolved]
      exact .handle hresource hstatement hunresolved
  | @node node arguments hwants hname hanswers hstatement hunresolved =>
      rcases hplain nodes hnodes node hwants.1 with ⟨hop, hnodeName, hoperands⟩
      have hnode : ¬ placeholderOpening.toList <:+: u.node.toList :=
        hname ▸ not_opening_infix_cleanName hnodeName
      have hharmless : ∀ argument ∈ arguments, argument.Harmless := by
        intro argument hargument
        rcases exists_of_forall₂ hanswers.flip hargument with ⟨operand, hoperand, hanswer⟩
        rcases List.mem_map.mp hoperand with ⟨reference, hreference, rfl⟩
        exact harmless_of_answers hbefore (not_opening_infix_cleanName (hoperands _ hreference))
          hanswer
      rcases Variable.filled_of_statement (fun w hw => not_parenthesis_mem_identifier hw)
        (not_parenthesis_mem_identifier hu) hop hnode hharmless hstatement hunresolved
        with ⟨htext, hleft⟩
      refine .node hnodes hwants.1 (hname.trans (Variable.node_filled _ _).symm) ?_ ?_ hleft
      · rw [List.forall₂_map_right_iff]
        exact hanswers.imp fun operand argument => supplies_of_answers hu hbefore
      · rw [Variable.identifier_filled, Variable.node_filled]
        exact htext

/-- Every statement is that of a node, with an argument for each of its operands in order, or that
of a handle: putting in the identifier and filling in placeholders in the text of a statement
changes nothing else in it. -/
theorem statements_allVariables {graph : SavedGraph} {options : ReconstructionOptions}
    (hplain : graph.Plain options) :
    ∀ v ∈ graph.allVariables options, Stated graph options (graph.allVariables options) v := by
  intro v hv
  rw [allVariables_eq_map] at hv
  rcases List.mem_map.mp hv with ⟨u, hu, rfl⟩
  exact stated_filled hplain hu

/-- A graph in which a resource turns up after the operand that it is for, a node refers to itself,
and a name is a quote. -/
def lateResource : SavedGraph where
  nodes :=
    [⟨"read", "ReadVariableOp", ["w:0", "^read"]⟩,
     ⟨"assign", "AssignVariableOp", ["w_resource", "read"]⟩]
  functions := [⟨"__inference_learn_1", [⟨"step", "Identity", ["\"", "assign"]⟩]⟩]

theorem plain_lateResource : lateResource.Plain {} := by
  intro nodes hnodes
  rcases mem_lists_iff.mp hnodes with rfl | ⟨function, hfunction, -, rfl⟩
  · decide
  · rw [List.mem_singleton.mp hfunction]
    decide

theorem statements_lateResource : lateResource.Plain {} ∧
    ∃ v ∈ lateResource.allVariables {}, v.node = "read" ∧
      Stated lateResource {} (lateResource.allVariables {}) v := by
  have hnames : "read" ∈ (lateResource.allVariables {}).map Variable.node := by
    rw [map_node_allVariables, mem_names_unfilled]
    refine Or.inl ⟨_, mem_lists_iff.mpr (Or.inl rfl), _, ⟨List.mem_cons_self, ?_⟩, ?_⟩
    · decide
    · decide
  rcases List.mem_map.mp hnames with ⟨v, hv, hname⟩
  exact ⟨plain_lateResource, v, hv, hname, statements_allVariables plain_lateResource v hv⟩

end Statements

end SavedGraph
end LayerNet
