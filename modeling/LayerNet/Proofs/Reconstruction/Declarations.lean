import LayerNet.Proofs.Reconstruction.Variables

/-!
# Identifiers and their declarations

An identifier that is written for an operand belongs to a variable that is there already, and one
that is filled in for a placeholder belongs to any other variable.  Each statement declares the
identifier of its variable, and filling in does not reach that far, so that in a list with all
variables every identifier which is used is declared once.

Main definitions:

- `Variable.declares`: the identifiers that statements declare.
- `Traced`: where the identifiers in a statement come from.

Main results:

- `SavedGraph.countP_declares`: the identifier of a variable is declared by one statement.
- `SavedGraph.reconstruct_eq_append`: the main graph adds its own variables and changes no others.
- `SavedGraph.traced_unfilled`: where all identifiers come from.
-/

namespace LayerNet

/-! ## What statements declare -/

/-- The identifier that an argument is. -/
def Argument.identifier? : Argument → Option String
  | identifier text => some text
  | placeholder _ => none

namespace Variable

/-- Whether the statement of a variable declares an identifier. -/
def declares (v : Variable) (identifier : String) : Bool :=
  Text.beginsWith ("let " ++ identifier ++ " = ") v.statement

/-- How a statement begins: up to a colon behind what it declares. -/
def opening (identifier : String) : List Char :=
  ("let " ++ identifier ++ " = op:").toList

theorem exists_opening_statementText (identifier op name : String) (arguments : List String) :
    ∃ back, (statementText identifier op name arguments).toList =
      opening identifier ++ ':' :: back := by
  refine ⟨(op ++ "(scope.sub_scope(" ++ Text.quote name ++ ")"
    ++ String.join (arguments.map fun argument => ", " ++ argument) ++ ");").toList, ?_⟩
  simp [statementText, opening]

/-- Placeholders that are filled in stand behind the opening. -/
theorem exists_opening_filledText {identifier : String} (hidentifier : '(' ∉ identifier.toList)
    (fillings : List (String × String)) {text : String}
    (htext : ∃ back, text.toList = opening identifier ++ ':' :: back) :
    ∃ back, (fillings.foldl filledText text).toList = opening identifier ++ ':' :: back := by
  have hopening : ¬ quotedOpening <:+: opening identifier := by
    refine not_quotedOpening_of_not_opening (not_opening_infix_of_not_mem ?_)
    simp [opening, hidentifier]
  induction fillings generalizing text with
  | nil => exact htext
  | cons filling fillings ih =>
      rcases htext with ⟨back, htext⟩
      refine ih ⟨replacedChars filling.1 filling.2 back, ?_⟩
      have hpattern : (placeholder filling.1).isEmpty = false := by
        simp [placeholder, placeholderOpening]
      rw [filledText, Text.replaceAll, hpattern, if_neg Bool.false_ne_true, String.toList_ofList,
        htext]
      exact replacedChars_separator filling.1 filling.2 (by decide) hopening

/-- A statement that begins so declares that identifier and no other. -/
theorem declares_iff {v : Variable} {identifier : String}
    (hopening : ∃ back, v.statement.toList = opening v.identifier ++ ':' :: back)
    (hself : ' ' ∉ v.identifier.toList) (hother : ' ' ∉ identifier.toList) :
    v.declares identifier = true ↔ v.identifier = identifier := by
  rcases hopening with ⟨back, hstatement⟩
  rw [declares, Text.beginsWith, List.isPrefixOf_iff_prefix, hstatement]
  constructor
  · rintro ⟨rest, hrest⟩
    have hcut : identifier.toList ++ ' ' :: ('=' :: ' ' :: rest) =
        v.identifier.toList ++ ' ' :: ('=' :: " op::".toList ++ back) := by
      simpa [opening] using hrest
    exact String.toList_inj.mp (Text.append_cons_inj_of_not_mem hother hself hcut).1.symm
  · rintro rfl
    exact ⟨"op::".toList ++ back, by simp [opening]⟩

end Variable

/-! ## Where identifiers come from -/

section Traced

variable (graph : SavedGraph) (options : ReconstructionOptions)

/-- What a variable is the result of: the operation and the operands of a node, or those of a
handle. -/
inductive ResultOf (name : String) : String → List String → Prop where
  | node {nodes : List GraphNode} {node : GraphNode} (hnodes : nodes ∈ graph.lists options)
      (hwants : options.Wants nodes node) (hname : node.cleanedName = name) :
      ResultOf name node.op (node.inputs.map cleanName)
  | handle (hresource : Text.endsWith resourceSuffix name = true) : ResultOf name handleOp []

/-- What an operand is written as when there are some variables: the identifier of one of them that
has its name, or a placeholder. -/
inductive WrittenFor (before : List Variable) (operand : String) : Argument → Prop where
  | identifier {w : Variable} (hmem : w ∈ before) (hname : w.node = operand) :
      WrittenFor before operand (.identifier w.identifier)
  | placeholder : WrittenFor before operand (.placeholder operand)

/-- Where the identifiers in the statement of a variable come from: those that are written as its
arguments from the variables before it, and those that are filled in from any others. -/
structure Traced (before : List Variable) (v : Variable) (after : List Variable)
    (op : String) (operands : List String) (arguments : List Argument) : Prop where
  resultOf : ResultOf graph options v.node op operands
  statement : v.statement = statementText v.identifier op v.node (arguments.map Argument.text)
  unresolved : v.unresolved = arguments.filterMap Argument.operand?
  written : List.Forall₂ (WrittenFor before) operands arguments
  filledIn : ∀ filling ∈ v.fillings (before ++ v :: after),
    ∃ w ∈ before ++ after, w.node = filling.1 ++ resourceSuffix ∧ w.identifier = filling.2

end Traced

/-- The identifiers in the statement of a variable with some arguments, in the end. -/
def Variable.usedIdentifiers (all : List Variable) (v : Variable) (arguments : List Argument) :
    List String :=
  arguments.filterMap Argument.identifier? ++ (v.fillings all).map Prod.snd

/-- What is filled in for a placeholder is the identifier of another variable. -/
theorem exists_of_mem_fillings {before after : List Variable} {v : Variable}
    {filling : String × String} (hfilling : filling ∈ v.fillings (before ++ v :: after)) :
    ∃ w ∈ before ++ after, w.node = filling.1 ++ resourceSuffix ∧ w.identifier = filling.2 := by
  rcases List.mem_filterMap.mp hfilling with ⟨operand, -, hresource⟩
  rcases Option.map_eq_some_iff.mp hresource with ⟨identifier, hidentifier, rfl⟩
  rcases exists_of_resourceFor_eq_some hidentifier with ⟨w, hw, hname, hother, rfl⟩
  refine ⟨w, ?_, hname, rfl⟩
  rw [List.mem_append, List.mem_cons] at hw
  rw [List.mem_append]
  refine hw.imp_right fun hafter => hafter.resolve_left ?_
  rintro rfl
  exact hother rfl

namespace SavedGraph

variable {graph : SavedGraph} {options : ReconstructionOptions}

/-- Every variable is written with identifiers of those before it, and filled in with those of
others. -/
theorem exists_traced {before after : List Variable} {v : Variable}
    (hlist : graph.unfilled options = before ++ v :: after) :
    ∃ op operands arguments, Traced graph options before v after op operands arguments := by
  rcases written_unfilled before v after hlist with ⟨nodes, hnodes, middle, hwritten⟩
  cases hwritten with
  | @node node arguments hwants hname hanswers hstatement hunresolved =>
      refine ⟨_, _, arguments, .node hnodes hwants hname, hstatement, hunresolved, ?_,
        fun _ => exists_of_mem_fillings⟩
      refine hanswers.imp fun operand argument hanswer => ?_
      cases hanswer with
      | identifier hmem hname => exact .identifier hmem hname
      | cycle => exact .placeholder
      | missing => exact .placeholder
  | handle hresource hnode hstatement hunresolved =>
      exact ⟨_, _, [], .handle hresource, hstatement, hunresolved, .nil,
        fun _ => exists_of_mem_fillings⟩

/-- All identifiers that are used belong to variables. -/
theorem Traced.exists_of_mem_usedIdentifiers {before after : List Variable} {v : Variable}
    {op : String} {operands : List String} {arguments : List Argument}
    (h : Traced graph options before v after op operands arguments) {identifier : String}
    (hused : identifier ∈ v.usedIdentifiers (before ++ v :: after) arguments) :
    ∃ w ∈ before ++ v :: after, w.identifier = identifier := by
  rcases List.mem_append.mp hused with hwritten | hfilled
  · rcases List.mem_filterMap.mp hwritten with ⟨argument, hargument, hidentifier⟩
    rcases exists_of_forall₂ h.written.flip hargument with ⟨operand, -, hfor⟩
    cases hfor with
    | identifier hmem hname =>
        cases hidentifier
        exact ⟨_, List.mem_append_left _ hmem, rfl⟩
    | placeholder => cases hidentifier
  · rcases List.mem_map.mp hfilled with ⟨filling, hfilling, rfl⟩
    rcases h.filledIn filling hfilling with ⟨w, hw, -, hidentifier⟩
    rw [List.mem_append] at hw
    exact ⟨w, List.mem_append.mpr (hw.imp_right (List.mem_cons_of_mem _)), hidentifier⟩

end SavedGraph

/-! ## Declared once -/

namespace SavedGraph

variable {graph : SavedGraph} {options : ReconstructionOptions}

theorem not_space_mem_identifier {v : Variable} (hv : v ∈ graph.unfilled options) :
    ' ' ∉ v.identifier.toList := by
  intro hmem
  have hidentifier : IsIdentifier v.identifier := (namedAfter_of_mem_unfilled hv).isIdentifier
  exact absurd (hidentifier.plain ' ' hmem) (by decide)

theorem exists_opening_filled {v : Variable} (hv : v ∈ graph.unfilled options)
    (all : List Variable) :
    ∃ back, (v.filled all).statement.toList =
      Variable.opening (v.filled all).identifier ++ ':' :: back := by
  rcases List.append_of_mem hv with ⟨before, after, hlist⟩
  rcases exists_traced hlist with ⟨op, operands, arguments, htraced⟩
  rw [Variable.filled_eq]
  refine Variable.exists_opening_filledText (not_parenthesis_mem_identifier hv) _ ?_
  rw [htraced.statement]
  exact Variable.exists_opening_statementText _ _ _ _

/-- A statement declares the identifier of its variable, also after placeholders are filled in. -/
theorem declares_filled_iff {v : Variable} (hv : v ∈ graph.unfilled options) {identifier : String}
    (hspace : ' ' ∉ identifier.toList) :
    (v.filled (graph.unfilled options)).declares identifier = true ↔ v.identifier = identifier := by
  rw [← Variable.identifier_filled (graph.unfilled options) v]
  refine Variable.declares_iff (exists_opening_filled hv _) ?_ hspace
  rw [Variable.identifier_filled]
  exact not_space_mem_identifier hv

/-- The identifier of a variable is declared by one statement. -/
theorem countP_declares {w : Variable} (hw : w ∈ graph.unfilled options) :
    (graph.allVariables options).countP (fun v => v.declares w.identifier) = 1 := by
  have hdeclares : ∀ v ∈ graph.allVariables options,
      (v.declares w.identifier = true ↔ (v.identifier == w.identifier) = true) := by
    intro v hv
    rw [allVariables_eq_map] at hv
    rcases List.mem_map.mp hv with ⟨u, hu, rfl⟩
    rw [beq_iff_eq, Variable.identifier_filled]
    exact declares_filled_iff hu (not_space_mem_identifier hw)
  have hmem : w.identifier ∈ (graph.allVariables options).map Variable.identifier := by
    rw [map_identifier_allVariables]
    exact List.mem_map_of_mem hw
  have hnodup : ((graph.allVariables options).map Variable.identifier).Nodup := by
    rw [map_identifier_allVariables]
    exact (graph.settled_fullSession options).coherent.nodup_identifiers
  rw [List.countP_congr hdeclares, ← List.count_eq_one_of_mem hnodup hmem, List.count,
    List.countP_map]
  rfl

/-! ## With the main graph and without -/

/-- Whether the main graph is wanted makes no difference to the variables. -/
theorem fullSession_includeMainGraph (wanted : Bool) :
    graph.mainSession { options with includeMainGraph := wanted } = graph.mainSession options ∧
      graph.fullSession { options with includeMainGraph := wanted } =
        graph.fullSession options := by
  have hinternal : ReconstructionOptions.isInternal { options with includeMainGraph := wanted } =
      options.isInternal := rfl
  have hdefine (s : Session) (nodes : List GraphNode) :
      s.defineAll { options with includeMainGraph := wanted } nodes = s.defineAll options nodes :=
    Stage.defineAll_eq_of_isInternal_eq hinternal s
  constructor
  · exact hdefine _ _
  · simp only [fullSession, mainSession, hdefine]

/-- The main graph adds its own variables in front and changes no others. -/
theorem reconstruct_eq_append :
    graph.reconstruct { options with includeMainGraph := true } =
      (graph.mainSession options).toList.map (Variable.filled (graph.unfilled options)) ++
        graph.reconstruct { options with includeMainGraph := false } := by
  have hall (wanted : Bool) : graph.allVariables { options with includeMainGraph := wanted } =
      graph.allVariables options := by
    rw [allVariables, allVariables, (fullSession_includeMainGraph wanted).2]
  rcases graph.prefix_fullSession options with ⟨rest, hrest⟩
  rw [reconstruct, if_pos rfl, reconstruct, if_neg Bool.false_ne_true, hall true, hall false,
    (fullSession_includeMainGraph false).1, drop_allVariables hrest, ← List.map_append, hrest,
    allVariables_eq_map]
  rfl

/-- Every identifier that is written as an argument is that of a variable before, every one that is
filled in for a placeholder is that of another variable, and with the main graph every one of them
is declared by one statement.  Without the main graph exactly its variables, which come first, are
left out. -/
theorem traced_unfilled (graph : SavedGraph) (options : ReconstructionOptions) :
    (∀ before v after, graph.unfilled options = before ++ v :: after →
      (graph.allVariables options)[before.length]? = some { v with
        statement := (v.fillings (graph.unfilled options)).foldl Variable.filledText v.statement
        unresolved := v.unresolved.filter fun operand =>
          (resourceFor (graph.unfilled options) v.node operand).isNone } ∧
      ∃ op operands arguments, Traced graph options before v after op operands arguments ∧
        ∀ identifier ∈ v.usedIdentifiers (graph.unfilled options) arguments,
          (graph.reconstruct { options with includeMainGraph := true }).countP
            (fun w => w.declares identifier) = 1) ∧
    ∃ main, graph.reconstruct { options with includeMainGraph := true } =
        main ++ graph.reconstruct { options with includeMainGraph := false } ∧
      main.map Variable.node = (graph.mainSession options).toList.map Variable.node ∧
      main.map Variable.identifier =
        (graph.mainSession options).toList.map Variable.identifier := by
  constructor
  · intro before v after hlist
    refine ⟨?_, ?_⟩
    · rw [allVariables_eq_map, hlist]
      simp [Variable.filled_eq]
    · rcases exists_traced hlist with ⟨op, operands, arguments, htraced⟩
      refine ⟨op, operands, arguments, htraced, fun identifier hused => ?_⟩
      rw [hlist] at hused
      rcases Traced.exists_of_mem_usedIdentifiers htraced hused with ⟨w, hw, rfl⟩
      rw [← hlist] at hw
      rw [reconstruct, if_pos rfl, allVariables, (fullSession_includeMainGraph true).2]
      exact countP_declares hw
  · exact ⟨_, reconstruct_eq_append, by simp, by simp⟩

end SavedGraph
end LayerNet
