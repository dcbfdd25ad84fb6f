import LayerNet.Proofs.Reconstruction.Variables
import LayerNet.Proofs.Text.Lines

/-!
# Statements are read back

A statement tells what it was made of.  An identifier and an operation end where a character stands
that neither can have, and a name ends with its quotes.  An argument that is an identifier ends
before a comma or a parenthesis that closes, so that it is not the beginning of a placeholder.
Names are quoted, so that no statement goes over the end of its line, and the lines of a text are
its statements.

This holds of what is in the text in the end, after placeholders have been replaced in it, if no
name of the graph has in it what placeholders begin with.

Main definitions:

- `Statement`: a statement in its parts.
- `SavedGraph.Legible`: the graphs whose statements are read back.
- `SavedGraph.Tells`: what the statements of a graph tell.

Main results:

- `Statement.text_injective`, `Statement.lines_injective`: a statement, and a text of several, tell
  what they were made of.
- `SavedGraph.exists_statements`: the lines of a reconstruction are its statements, and tell what
  they were made of.
-/

namespace LayerNet

/-! ## Words -/

/-- Whether a character is a letter, a digit or an underscore. -/
def isWordChar (c : Char) : Bool :=
  c.isAlphanum || c == '_'

theorem IsIdentifier.isWordChar {text : String} (h : IsIdentifier text) :
    ∀ c ∈ text.toList, LayerNet.isWordChar c = true := by
  intro c hc
  rcases h.plain c hc with hlower | hdigit | rfl
  · simp [LayerNet.isWordChar, Char.isAlphanum, Char.isAlpha, hlower]
  · simp [LayerNet.isWordChar, Char.isAlphanum, hdigit]
  · decide

/-- What stands behind an argument is no part of a word. -/
theorem isWordChar_separator {c : Char} (h : c = ',' ∨ c = ')') : isWordChar c = false := by
  rcases h with rfl | rfl
  all_goals decide

/-! ## Arguments -/

namespace Argument

/-- Whether an argument is a placeholder or an identifier that may stand as one. -/
def Plain : Argument → Prop
  | identifier text => IsIdentifier text
  | placeholder _ => True

/-- An identifier is not taken for a placeholder: the word that placeholders begin with goes on with
a parenthesis. -/
theorem identifier_append_ne_placeholder {text operand : String} (h : IsIdentifier text) {c : Char}
    (hc : c = ',' ∨ c = ')') (back back' : List Char) :
    text.toList ++ c :: back ≠ (LayerNet.placeholder operand).toList ++ back' := by
  intro heq
  have hopening : (LayerNet.placeholder operand).toList ++ back' =
      "unresolved".toList ++ '(' :: ((Text.quote operand).toList ++ [')'] ++ back') := by
    simp [toList_placeholder, placeholderOpening]
  have hopens : ∀ d ∈ "unresolved".toList, LayerNet.isWordChar d = true := by
    simp [LayerNet.isWordChar]
  rw [hopening] at heq
  rcases Text.append_cons_inj_of_all h.isWordChar hopens (isWordChar_separator hc)
    (by decide) heq with ⟨-, htail⟩
  rw [(List.cons.inj htail).1] at hc
  exact absurd hc (by decide)

/-- An argument is told from what follows it. -/
theorem text_append_inj {argument argument' : Argument} (h : argument.Plain) (h' : argument'.Plain)
    {c c' : Char} (hc : c = ',' ∨ c = ')') (hc' : c' = ',' ∨ c' = ')') {back back' : List Char}
    (heq : argument.text.toList ++ c :: back = argument'.text.toList ++ c' :: back') :
    argument = argument' ∧ c :: back = c' :: back' := by
  cases argument with
  | identifier text =>
      cases argument' with
      | identifier text' =>
          rcases Text.append_cons_inj_of_all
              (IsIdentifier.isWordChar h) (IsIdentifier.isWordChar h')
            (isWordChar_separator hc) (isWordChar_separator hc') heq with ⟨htext, hback⟩
          exact ⟨congrArg identifier (String.toList_inj.mp htext), hback⟩
      | placeholder operand' => exact absurd heq (identifier_append_ne_placeholder h hc _ _)
  | placeholder operand =>
      cases argument' with
      | identifier text' => exact absurd heq.symm (identifier_append_ne_placeholder h' hc' _ _)
      | placeholder operand' =>
          exact (placeholder_append_inj heq).imp_left (congrArg placeholder)

end Argument

/-- The arguments of a statement are told by what is written from the first of them on. -/
theorem argumentChars_inj {arguments arguments' : List Argument}
    (h : ∀ argument ∈ arguments, argument.Plain) (h' : ∀ argument ∈ arguments', argument.Plain)
    (heq : argumentChars arguments = argumentChars arguments') : arguments = arguments' := by
  -- after the last argument stands a parenthesis, and before any other a comma
  have hend (a : Argument) (more : List Argument) :
      argumentChars [] ≠ argumentChars (a :: more) := by
    rw [argumentChars_cons]
    exact fun hchars => absurd (List.cons.inj hchars).1 (by decide)
  induction arguments generalizing arguments' with
  | nil =>
      cases arguments' with
      | nil => rfl
      | cons argument' arguments' => exact absurd heq (hend argument' arguments')
  | cons argument arguments ih =>
      cases arguments' with
      | nil => exact absurd heq.symm (hend argument arguments)
      | cons argument' arguments' =>
          rcases exists_cons_argumentChars arguments with ⟨c, back, hc, hback⟩
          rcases exists_cons_argumentChars arguments' with ⟨c', back', hc', hback'⟩
          rw [argumentChars_cons, argumentChars_cons, hback, hback'] at heq
          rcases Argument.text_append_inj (h _ List.mem_cons_self) (h' _ List.mem_cons_self) hc hc'
            (List.cons.inj (List.cons.inj heq).2).2 with ⟨hfirst, hrest⟩
          rw [← hback, ← hback'] at hrest
          rw [hfirst, ih (fun a ha => h a (List.mem_cons_of_mem _ ha))
            (fun a ha => h' a (List.mem_cons_of_mem _ ha)) hrest]

/-! ## Statements -/

/-- A statement in its parts: the identifier that it declares, the operation, the name of the node,
and the arguments. -/
structure Statement where
  identifier : String
  op : String
  node : String
  arguments : List Argument
deriving Inhabited

namespace Statement

/-- The statement as it is written. -/
def text (s : Statement) : String :=
  statementText s.identifier s.op s.node (s.arguments.map Argument.text)

/-- The variable with the statement, and with the placeholders among the arguments. -/
def toVariable (s : Statement) : Variable :=
  ⟨s.identifier, s.node, s.text, s.arguments.filterMap Argument.operand?⟩

/-- Whether the identifiers may stand as such, and the operation is a word; the node may have any
name. -/
structure Plain (s : Statement) : Prop where
  identifier : IsIdentifier s.identifier
  op : ∀ c ∈ s.op.toList, isWordChar c = true
  arguments : ∀ argument ∈ s.arguments, argument.Plain

variable {s t : Statement}

/-- The characters of a statement, cut where its parts end. -/
theorem toList_text (s : Statement) : s.text.toList =
    "let ".toList ++ (s.identifier.toList ++ ' ' :: ("= op::".toList ++ (s.op.toList ++ '(' ::
      ("scope.sub_scope(".toList ++ ((Text.quote s.node).toList ++ ')' ::
        argumentChars s.arguments))))) := by
  rw [text, toList_statementText]
  simp [statementHead]

theorem text_ne_empty (s : Statement) : s.text ≠ "" := by
  intro hempty
  have hchars : s.text.toList = [] := by rw [hempty, String.toList_empty]
  rw [toList_text] at hchars
  simp at hchars

/-- A statement tells what it was made of. -/
theorem text_injective (h : s.Plain) (h' : t.Plain) (heq : s.text = t.text) : s = t := by
  have hchars : s.text.toList = t.text.toList := congrArg String.toList heq
  rw [toList_text, toList_text] at hchars
  rcases Text.append_cons_inj_of_all h.identifier.isWordChar h'.identifier.isWordChar (by decide)
    (by decide) (List.append_cancel_left hchars) with ⟨hidentifier, hchars⟩
  rcases Text.append_cons_inj_of_all h.op h'.op (by decide) (by decide)
    (List.append_cancel_left (List.cons.inj hchars).2) with ⟨hop, hchars⟩
  rcases Text.quote_append_inj (List.append_cancel_left (List.cons.inj hchars).2)
    with ⟨hnode, hchars⟩
  have harguments : s.arguments = t.arguments :=
    argumentChars_inj h.arguments h'.arguments (List.cons.inj hchars).2
  cases s
  cases t
  rw [Statement.mk.injEq]
  exact ⟨String.toList_inj.mp hidentifier, String.toList_inj.mp hop, hnode, harguments⟩

theorem newline_not_mem_argumentText {argument : Argument} (h : argument.Plain) :
    '\n' ∉ argument.text.toList := by
  cases argument with
  | identifier text => exact fun hmem => absurd (IsIdentifier.isWordChar h _ hmem) (by decide)
  | placeholder operand =>
      simp [Argument.text, toList_placeholder, placeholderOpening, Text.newline_not_mem_quote]

/-- A statement is on one line. -/
theorem newline_not_mem_text (h : s.Plain) : '\n' ∉ s.text.toList := by
  have hidentifier : '\n' ∉ s.identifier.toList :=
    fun hmem => absurd (h.identifier.isWordChar _ hmem) (by decide)
  have hop : '\n' ∉ s.op.toList := fun hmem => absurd (h.op _ hmem) (by decide)
  have harguments : '\n' ∉ argumentChars s.arguments := by
    simp only [argumentChars, List.mem_append, List.mem_flatMap, List.mem_cons, not_or, not_exists,
      not_and]
    exact ⟨fun argument hargument =>
      ⟨by decide, by decide, newline_not_mem_argumentText (h.arguments _ hargument)⟩, by decide⟩
  simp [toList_text, hidentifier, hop, harguments, Text.newline_not_mem_quote]

/-! ## Texts of several statements -/

/-- The statements, one on each line. -/
def lines (told : List Statement) : String :=
  "\n".intercalate (told.map text)

variable {told told' : List Statement}

/-- The lines of the text are the statements. -/
theorem splitAtChar_lines (h : ∀ s ∈ told, s.Plain) (hne : told ≠ []) :
    Text.splitAtChar '\n' (lines told) = told.map text := by
  refine Text.splitAtChar_intercalate rfl (List.map_eq_nil_iff.not.mpr hne) fun line hline => ?_
  rcases List.mem_map.mp hline with ⟨s, hs, rfl⟩
  exact newline_not_mem_text (h s hs)

theorem lines_ne_empty (h : ∀ s ∈ told, s.Plain) (hne : told ≠ []) :
    lines told ≠ "" := by
  intro hempty
  have hsplit : Text.splitAtChar '\n' "" = told.map text := hempty ▸ splitAtChar_lines h hne
  have hmem : "" ∈ told.map text := by
    rw [← hsplit, Text.splitAtChar_of_not_mem (by simp)]
    exact List.mem_singleton_self _
  rcases List.mem_map.mp hmem with ⟨s, -, hs⟩
  exact s.text_ne_empty hs

theorem eq_of_map_text_eq (h : ∀ s ∈ told, s.Plain) (h' : ∀ s ∈ told', s.Plain)
    (heq : told.map text = told'.map text) : told = told' := by
  induction told generalizing told' with
  | nil => exact (List.map_eq_nil_iff.mp heq.symm).symm
  | cons s told ih =>
      cases told' with
      | nil => exact absurd heq (List.cons_ne_nil _ _)
      | cons t told' =>
          rcases List.cons.inj heq with ⟨hfirst, hrest⟩
          rw [text_injective (h s List.mem_cons_self) (h' t List.mem_cons_self) hfirst,
            ih (fun u hu => h u (List.mem_cons_of_mem _ hu))
              (fun u hu => h' u (List.mem_cons_of_mem _ hu)) hrest]

/-- A text tells what its statements were made of. -/
theorem lines_injective (h : ∀ s ∈ told, s.Plain) (h' : ∀ s ∈ told', s.Plain)
    (heq : lines told = lines told') : told = told' := by
  have hnone : lines [] = "" := rfl
  by_cases hne : told = [] <;> by_cases hne' : told' = []
  · rw [hne, hne']
  · rw [hne, hnone] at heq
    exact absurd heq.symm (lines_ne_empty h' hne')
  · rw [hne', hnone] at heq
    exact absurd heq (lines_ne_empty h hne)
  · refine eq_of_map_text_eq h h' ?_
    rw [← splitAtChar_lines h hne, heq, splitAtChar_lines h' hne']

end Statement

/-! ## Graphs -/

namespace SavedGraph

/-- The graphs whose statements are read back: the operations in their lists are words, and no name
and no operand has in it what placeholders begin with. -/
structure Legible (graph : SavedGraph) (options : ReconstructionOptions) : Prop where
  op : ∀ nodes ∈ graph.lists options, ∀ node ∈ nodes, ∀ c ∈ node.op.toList, isWordChar c = true
  name : ∀ nodes ∈ graph.lists options, ∀ node ∈ nodes,
    ¬ placeholderOpening.toList <:+: node.name.toList
  operand : ∀ nodes ∈ graph.lists options, ∀ node ∈ nodes, ∀ operand ∈ node.inputs,
    ¬ placeholderOpening.toList <:+: operand.toList

variable {graph : SavedGraph} {options : ReconstructionOptions} {told : List Statement}

theorem Legible.plain (h : graph.Legible options) : graph.Plain options := by
  intro nodes hnodes node hnode
  have hparen : '(' ∉ node.op.toList := fun hmem =>
    absurd (h.op nodes hnodes node hnode _ hmem) (by decide)
  exact ⟨not_opening_infix_of_not_mem hparen, h.name nodes hnodes node hnode,
    h.operand nodes hnodes node hnode⟩

/-- Whether what a statement tells is so in a graph: the operation is that of a node of the name,
and the arguments are what its operands are supplied with, or both are those of a handle. -/
inductive Confirms (graph : SavedGraph) (options : ReconstructionOptions) (s : Statement) :
    Prop where
  | node {nodes : List GraphNode} {node : GraphNode} (hnodes : nodes ∈ graph.lists options)
      (hnode : node ∈ nodes) (hname : node.cleanedName = s.node) (hop : node.op = s.op)
      (hsupplies : List.Forall₂ (Supplies (graph.allVariables options) s.toVariable)
        (node.inputs.map cleanName) s.arguments)
  | handle (hresource : Text.endsWith resourceSuffix s.node = true) (hop : s.op = handleOp)
      (harguments : s.arguments = [])

/-- Whether the reconstructed variables are those with some statements, and what these tell is
so. -/
structure Tells (graph : SavedGraph) (options : ReconstructionOptions) (told : List Statement) :
    Prop where
  reconstruct_eq : graph.reconstruct options = told.map Statement.toVariable
  confirms : ∀ s ∈ told, graph.Confirms options s

theorem Stated.exists_confirms {v : Variable}
    (h : Stated graph options (graph.allVariables options) v) :
    ∃ s : Statement, s.toVariable = v ∧ graph.Confirms options s := by
  cases h with
  | @node nodes node arguments hnodes hnode hname hsupplies hstatement hunresolved =>
      have hvariable : (Statement.mk v.identifier node.op v.node arguments).toVariable = v := by
        rw [Statement.toVariable, Statement.text, ← hstatement, ← hunresolved]
      exact ⟨_, hvariable, .node hnodes hnode hname rfl (hvariable.symm ▸ hsupplies)⟩
  | handle hresource hstatement hunresolved =>
      have hvariable : (Statement.mk v.identifier handleOp v.node []).toVariable = v := by
        rw [Statement.toVariable, Statement.text, List.map_nil, ← hstatement, List.filterMap_nil,
          ← hunresolved]
      exact ⟨_, hvariable, .handle hresource rfl rfl⟩

theorem exists_tells (h : graph.Legible options) : ∃ told, graph.Tells options told := by
  have hconfirms : ∀ v ∈ graph.reconstruct options,
      ∃ s : Statement, s.toVariable = v ∧ graph.Confirms options s := by
    intro v hv
    rcases exists_filled_of_mem_reconstruct hv with ⟨u, hu, rfl⟩
    exact (stated_filled h.plain hu).exists_confirms
  choose! tell htell using hconfirms
  refine ⟨(graph.reconstruct options).map tell, ?_, fun s hs => ?_⟩
  · have hsame : ∀ v ∈ graph.reconstruct options, (Statement.toVariable ∘ tell) v = v :=
      fun v hv => (htell v hv).1
    rw [List.map_map, List.map_congr_left hsame, List.map_id']
  · rcases List.mem_map.mp hs with ⟨v, hv, rfl⟩
    exact (htell v hv).2

/-- What an operand is supplied with is the identifier of a variable or a placeholder. -/
theorem Supplies.plain {v : Variable} {operand : String} {argument : Argument}
    (h : Supplies (graph.allVariables options) v operand argument) : argument.Plain := by
  cases h with
  | identifier hmem hname => exact (namedAfter_of_mem_allVariables hmem).isIdentifier
  | resource hmem hname hother => exact (namedAfter_of_mem_allVariables hmem).isIdentifier
  | placeholder hnone => exact True.intro

theorem Tells.plain (hlegible : graph.Legible options) (h : graph.Tells options told) :
    ∀ s ∈ told, s.Plain := by
  intro s hs
  have hmem : s.toVariable ∈ graph.allVariables options := by
    refine reconstruct_subset ?_
    rw [h.reconstruct_eq]
    exact List.mem_map_of_mem hs
  have hidentifier : IsIdentifier s.identifier := (namedAfter_of_mem_allVariables hmem).isIdentifier
  cases h.confirms s hs with
  | node hnodes hnode hname hop hsupplies =>
      refine ⟨hidentifier, hop ▸ hlegible.op _ hnodes _ hnode, fun argument hargument => ?_⟩
      rcases exists_of_forall₂ hsupplies.flip hargument with ⟨operand, -, hsupplied⟩
      exact hsupplied.plain
  | handle hresource hop harguments =>
      refine ⟨hidentifier, ?_, by simp [harguments]⟩
      rw [hop]
      simp [handleOp, isWordChar]

theorem Tells.statements_eq (h : graph.Tells options told) :
    graph.statements options = Statement.lines told := by
  rw [statements, h.reconstruct_eq, List.map_map, Statement.lines]
  rfl

/-- The lines of a text are its statements, if there are any, and each tells the identifier, the
operation, the name and the arguments.  Whatever other graph has a statement or the whole text in
common, it tells the same there. -/
theorem exists_statements {graph : SavedGraph} {options : ReconstructionOptions}
    (hlegible : graph.Legible options) :
    ∃ told : List Statement,
      graph.Tells options told ∧
        (∀ s ∈ told, s.Plain) ∧
        (graph.reconstruct options ≠ [] →
          Text.splitAtChar '\n' (graph.statements options) = told.map Statement.text) ∧
        ∀ (graph' : SavedGraph) (options' : ReconstructionOptions) (told' : List Statement),
          graph'.Legible options' → graph'.Tells options' told' →
            (∀ s ∈ told, ∀ t ∈ told', s.text = t.text → s = t) ∧
              (graph.statements options = graph'.statements options' → told = told') := by
  rcases exists_tells hlegible with ⟨told, htells⟩
  have hplain : ∀ s ∈ told, s.Plain := htells.plain hlegible
  refine ⟨told, htells, hplain, fun hne => ?_, fun graph' options' told' hlegible' htells' => ?_⟩
  · rw [htells.statements_eq]
    refine Statement.splitAtChar_lines hplain ?_
    rintro rfl
    exact hne htells.reconstruct_eq
  · have hplain' : ∀ s ∈ told', s.Plain := htells'.plain hlegible'
    refine ⟨fun s hs t ht => Statement.text_injective (hplain s hs) (hplain' t ht), fun heq => ?_⟩
    rw [htells.statements_eq, htells'.statements_eq] at heq
    exact Statement.lines_injective hplain hplain' heq

/-- A graph with names that have quotes, line feeds, commas and parentheses in them, and a node that
is named like the beginning of a placeholder. -/
def quotedNames : SavedGraph where
  nodes :=
    [⟨"unresolved", "Const", []⟩,
     ⟨"a\"), unresolved", "AddV2", ["unresolved:1", "x\\\n, (", "^unresolved"]⟩]

/-- Options by which the main graph is reconstructed as well. -/
def withMainGraph : ReconstructionOptions where
  includeMainGraph := true

theorem legible_quotedNames : quotedNames.Legible withMainGraph := by
  have hlists : ∀ nodes ∈ quotedNames.lists withMainGraph, nodes = quotedNames.nodes := by
    intro nodes hnodes
    rcases mem_lists_iff.mp hnodes with heq | ⟨function, hfunction, -, -⟩
    · exact heq
    · exact absurd hfunction List.not_mem_nil
  constructor
  all_goals
    intro nodes hnodes
    rw [hlists nodes hnodes]
  case op => simp [quotedNames, isWordChar]
  all_goals decide

/-- Its text has a line for each statement, and there is one way to read them. -/
theorem statements_quotedNames :
    quotedNames.Legible withMainGraph ∧ quotedNames.reconstruct withMainGraph ≠ [] ∧
      ∃ told : List Statement,
        Text.splitAtChar '\n' (quotedNames.statements withMainGraph) = told.map Statement.text ∧
          ∀ told', quotedNames.Tells withMainGraph told' → told = told' := by
  have hname : "unresolved" ∈ (quotedNames.reconstruct withMainGraph).map Variable.node := by
    have hwanted : withMainGraph.includeMainGraph = true := rfl
    rw [reconstruct, if_pos hwanted, map_node_allVariables, mem_names_unfilled]
    refine Or.inl ⟨_, List.mem_cons_self, _, ⟨List.mem_cons_self, ?_⟩, ?_⟩
    all_goals decide
  have hne : quotedNames.reconstruct withMainGraph ≠ [] := by
    intro hnil
    rw [hnil] at hname
    exact absurd hname List.not_mem_nil
  rcases exists_statements legible_quotedNames with ⟨told, -, -, hsplit, hsame⟩
  exact ⟨legible_quotedNames, hne, told, hsplit hne, fun told' htells =>
    (hsame _ _ told' legible_quotedNames htells).2 rfl⟩

end SavedGraph
end LayerNet
