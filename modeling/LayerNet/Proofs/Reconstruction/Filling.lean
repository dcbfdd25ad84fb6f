import LayerNet.Proofs.Reconstruction.Coherent
import LayerNet.Proofs.Reconstruction.Statement

/-!
# Filling in placeholders

Placeholders are filled in variable by variable and operand by operand, by places and in the text of
statements.  Neither is needed to say what comes out: which resource an operand gets depends on
names only, and each argument is filled in by itself.

Main definitions:

- `resourceFor`: the identifier that a placeholder is filled in with.
- `Variable.filled`: a variable with its placeholders filled in.
- `Variable.fillings`: what is filled in.
- `Argument.filled`: an argument after that.

Main results:

- `Variable.filled_eq`: how filling in changes a variable.
- `Session.Coherent.fillIn_eq_map`: each variable is filled in by itself, whatever its place.
- `Variable.filled_of_statement`: the arguments are filled in, and nothing else changes.
-/

namespace LayerNet

/-! ## Resources for operands -/

section Resources

/-- The identifier that the placeholder for an operand of the variable of a node is filled in with:
that of the resource with the operand's name, if the node is another one. -/
def resourceFor (all : List Variable) (node operand : String) : Option String :=
  (all.find? fun w => w.node == operand ++ resourceSuffix && w.node != node).map Variable.identifier

variable {all : List Variable} {node operand : String}

theorem resourceFor_eq_none_iff : resourceFor all node operand = none ↔
    ∀ w ∈ all, w.node = operand ++ resourceSuffix → w.node = node := by
  simp [resourceFor]

theorem exists_of_resourceFor_eq_some {identifier : String}
    (h : resourceFor all node operand = some identifier) :
    ∃ w ∈ all, w.node = operand ++ resourceSuffix ∧ w.node ≠ node ∧ w.identifier = identifier := by
  rcases Option.map_eq_some_iff.mp h with ⟨w, hfind, hidentifier⟩
  have hnames := List.find?_some hfind
  rw [Bool.and_eq_true, beq_iff_eq, bne_iff_ne] at hnames
  exact ⟨w, List.mem_of_find?_eq_some hfind, hnames.1, hnames.2, hidentifier⟩

/-- If no two variables have one name, the resource with the operand's name is the one that is
taken. -/
theorem resourceFor_eq_some_iff (hnodup : (all.map Variable.node).Nodup) {identifier : String} :
    resourceFor all node operand = some identifier ↔
      ∃ w ∈ all, w.node = operand ++ resourceSuffix ∧ w.node ≠ node ∧
        w.identifier = identifier := by
  refine ⟨exists_of_resourceFor_eq_some, ?_⟩
  rintro ⟨w, hw, hname, hother, rfl⟩
  cases hfound : resourceFor all node operand with
  | none => exact absurd (resourceFor_eq_none_iff.mp hfound w hw hname) hother
  | some identifier =>
      rcases exists_of_resourceFor_eq_some hfound with ⟨u, hu, huname, -, rfl⟩
      rw [List.inj_on_of_nodup_map hnodup hu hw (huname.trans hname.symm)]

end Resources

/-! ## Variables one by one -/

namespace Variable

/-- Fills in the placeholder for one operand if there is a resource for it. -/
def fillOperand (all : List Variable) (v : Variable) (operand : String) : Variable :=
  match resourceFor all v.node operand with
  | some identifier =>
    { v with statement := Text.replaceAll (placeholder operand) identifier v.statement }
  | none => { v with unresolved := v.unresolved ++ [operand] }

/-- A variable with its placeholders filled in for which there are resources. -/
def filled (all : List Variable) (v : Variable) : Variable :=
  v.unresolved.foldl (fillOperand all) { v with unresolved := [] }

@[simp]
theorem node_fillOperand (all : List Variable) (v : Variable) (operand : String) :
    (v.fillOperand all operand).node = v.node := by
  unfold fillOperand
  split <;> rfl

/-- The operands of a variable for which there are resources, with the identifiers of these. -/
def fillings (all : List Variable) (v : Variable) : List (String × String) :=
  v.unresolved.filterMap fun operand =>
    (resourceFor all v.node operand).map fun identifier => (operand, identifier)

/-- A text in which the placeholder for an operand is replaced by an identifier. -/
def filledText (text : String) (filling : String × String) : String :=
  Text.replaceAll (placeholder filling.1) filling.2 text

/-- Filling in replaces one placeholder after another, and notes down the operands without a
resource. -/
theorem filled_eq (all : List Variable) (v : Variable) : v.filled all = { v with
    statement := (v.fillings all).foldl filledText v.statement
    unresolved := v.unresolved.filter fun operand => (resourceFor all v.node operand).isNone } := by
  have hfold (operands : List String) (w : Variable) :
      operands.foldl (fillOperand all) w = { w with
        statement := ({ w with unresolved := operands }.fillings all).foldl filledText w.statement
        unresolved := w.unresolved ++
          operands.filter fun operand => (resourceFor all w.node operand).isNone } := by
    induction operands generalizing w with
    | nil => simp [fillings]
    | cons operand operands ih =>
        rw [List.foldl_cons, ih]
        cases hresource : resourceFor all w.node operand with
        | none => simp [fillOperand, fillings, hresource]
        | some identifier => simp [fillOperand, fillings, filledText, hresource]
  rw [filled, hfold]
  rfl

@[simp]
theorem node_filled (all : List Variable) (v : Variable) : (v.filled all).node = v.node := by
  rw [filled_eq]

@[simp]
theorem identifier_filled (all : List Variable) (v : Variable) :
    (v.filled all).identifier = v.identifier := by
  rw [filled_eq]

/-- A variable without placeholders is left as it is. -/
theorem filled_of_unresolved_eq_nil {all : List Variable} {v : Variable} (h : v.unresolved = []) :
    v.filled all = v := by
  rcases v with ⟨identifier, node, statement, unresolved⟩
  cases h
  rfl

end Variable

namespace Session

variable {s : Session}

/-- A resource at another place is one with another name. -/
theorem Coherent.fillOperand_eq (h : s.Coherent) {i : Nat} {u : Variable}
    (hu : s.toList[i]? = some u) {v : Variable} (hnode : v.node = u.node) (operand : String) :
    s.fillOperand i v operand = v.fillOperand s.toList operand := by
  have hnone : (∀ w ∈ s.toList, w.node = operand ++ resourceSuffix → w.node = v.node) →
      resourceFor s.toList v.node operand = none := resourceFor_eq_none_iff.mpr
  rw [fillOperand, Variable.fillOperand]
  cases hfind : s.find? (operand ++ resourceSuffix) with
  | none =>
      rw [find?_eq_none_iff, h.mem_places_iff] at hfind
      rw [hnone fun w hw hname => absurd ⟨w, hw, hname⟩ hfind]
  | some found =>
      rcases found with ⟨j, w⟩
      rcases h.find?_eq_some_iff.mp hfind with ⟨hw, hname⟩
      have hmem : w ∈ s.toList := List.mem_of_getElem? hw
      dsimp only
      split <;> rename_i hplace
      · subst hplace
        cases Option.some.inj (hw.symm.trans hu)
        rw [hnone fun u hu huname => huname.trans (hname.symm.trans hnode.symm)]
      · have hother : w.node ≠ v.node := by
          intro heq
          have hsame := (h.places_iff w.node i).mpr ⟨u, hu, hnode.symm.trans heq.symm⟩
          rw [(h.places_iff w.node j).mpr ⟨w, hw, rfl⟩] at hsame
          exact hplace (Option.some.inj hsame)
        rw [(resourceFor_eq_some_iff h.nodup_names).mpr ⟨w, hmem, hname, hother, rfl⟩]

/-- Each variable is filled in by itself, whatever its place. -/
theorem Coherent.fillIn_eq_map (h : s.Coherent) :
    s.fillIn = s.toList.map (Variable.filled s.toList) := by
  have hfold (i : Nat) (u : Variable) (hu : s.toList[i]? = some u) (operands : List String) :
      ∀ v : Variable, v.node = u.node →
        operands.foldl (s.fillOperand i) v = operands.foldl (Variable.fillOperand s.toList) v := by
    induction operands with
    | nil => exact fun v hnode => rfl
    | cons operand operands ih =>
        intro v hnode
        rw [List.foldl_cons, List.foldl_cons, h.fillOperand_eq hu hnode]
        exact ih _ ((Variable.node_fillOperand _ _ _).trans hnode)
  rw [fillIn, Array.toList_mapIdx]
  refine List.ext_getElem (by simp [toList]) fun i hi hi' => ?_
  rw [List.getElem_mapIdx, List.getElem_map]
  exact hfold i _ (List.getElem?_eq_getElem _) _ _ rfl

end Session

/-! ## Arguments one by one -/

namespace Argument

/-- An argument after the placeholders of the variable of a node are filled in. -/
def filled (all : List Variable) (node : String) : Argument → Argument
  | identifier text => identifier text
  | placeholder operand => (resourceFor all node operand).elim (placeholder operand) identifier

/-- An argument after the placeholders for some operands are filled in. -/
def filledAmong (all : List Variable) (node : String) (operands : List String) :
    Argument → Argument
  | identifier text => identifier text
  | placeholder operand =>
    if operand ∈ operands then (placeholder operand).filled all node else placeholder operand

variable {all : List Variable} {node operand : String} {operands : List String}

/-- An operand for which there is a resource is replaced. -/
theorem filledAmong_replace {new : String} (h : resourceFor all node operand = some new)
    (argument : Argument) : (argument.replace operand new).filledAmong all node operands =
      argument.filledAmong all node (operand :: operands) := by
  cases argument with
  | identifier text => rfl
  | placeholder other =>
      by_cases heq : other = operand
      · subst heq
        simp [replace, filledAmong, filled, h]
      · simp [replace, filledAmong, heq]

/-- An operand for which there is none is left as it is. -/
theorem filledAmong_cons (h : resourceFor all node operand = none) (argument : Argument) :
    argument.filledAmong all node operands =
      argument.filledAmong all node (operand :: operands) := by
  cases argument with
  | identifier text => rfl
  | placeholder other =>
      by_cases heq : other = operand
      · subst heq
        simp [filledAmong, filled, h]
      · simp [filledAmong, heq]

/-- The placeholders among some arguments are those for the operands which are left. -/
theorem filterMap_operand?_filled (arguments : List Argument) :
    (arguments.map (filled all node)).filterMap operand? =
      (arguments.filterMap operand?).filter fun operand =>
        (resourceFor all node operand).isNone := by
  rw [List.filterMap_map, List.filter_filterMap]
  refine List.filterMap_congr fun argument _ => ?_
  cases argument with
  | identifier text => rfl
  | placeholder operand =>
      cases hresource : resourceFor all node operand with
      | none => simp [filled, operand?, hresource, Option.filter]
      | some identifier => simp [filled, operand?, hresource, Option.filter]

theorem Harmless.replace {argument : Argument} (h : argument.Harmless) {new : String}
    (hnew : '(' ∉ new.toList) : (argument.replace operand new).Harmless := by
  cases argument with
  | identifier text => exact h
  | placeholder other =>
      rw [Argument.replace]
      split
      · exact hnew
      · exact h

end Argument

/-! ## Statements -/

section Statements

variable {all : List Variable} {identifier op node : String}

/-- Filling in the placeholders for some operands fills in arguments. -/
theorem foldl_fillOperand_of_statement (hall : ∀ w ∈ all, '(' ∉ w.identifier.toList)
    (hidentifier : '(' ∉ identifier.toList) (hop : ¬ placeholderOpening.toList <:+: op.toList)
    (hnode : ¬ placeholderOpening.toList <:+: node.toList) (operands : List String) {v : Variable}
    (hv : v.node = node) {arguments : List Argument}
    (harguments : ∀ argument ∈ arguments, argument.Harmless)
    (hstatement : v.statement = statementText identifier op node (arguments.map Argument.text)) :
    (operands.foldl (Variable.fillOperand all) v).statement = statementText identifier op node
        ((arguments.map (Argument.filledAmong all node operands)).map Argument.text) := by
  induction operands generalizing v arguments with
  | nil =>
      have hsame : Argument.filledAmong all node [] = id := by
        funext argument
        cases argument <;> simp [Argument.filledAmong]
      rw [hsame, List.map_id]
      exact hstatement
  | cons operand operands ih =>
      have hnext : (v.fillOperand all operand).node = node :=
        (v.node_fillOperand all operand).trans hv
      rw [List.foldl_cons]
      cases hresource : resourceFor all node operand with
      | none =>
          have hstep : (v.fillOperand all operand).statement = v.statement := by
            simp [Variable.fillOperand, hv, hresource]
          have hfilled : Argument.filledAmong all node operands =
              Argument.filledAmong all node (operand :: operands) :=
            funext (Argument.filledAmong_cons hresource)
          rw [ih hnext harguments (hstep.trans hstatement), hfilled]
      | some new =>
          have hnew : '(' ∉ new.toList := by
            rcases exists_of_resourceFor_eq_some hresource with ⟨w, hw, -, -, rfl⟩
            exact hall w hw
          have hreplaced : ∀ argument ∈ arguments.map (Argument.replace operand new),
              argument.Harmless := by
            intro argument hargument
            rcases List.mem_map.mp hargument with ⟨old, hold, rfl⟩
            exact (harguments old hold).replace hnew
          have hstep : (v.fillOperand all operand).statement =
              Text.replaceAll (placeholder operand) new v.statement := by
            simp [Variable.fillOperand, hv, hresource]
          have htext : (v.fillOperand all operand).statement = statementText identifier op node
              ((arguments.map (Argument.replace operand new)).map Argument.text) := by
            rw [hstep, hstatement]
            exact replaceAll_statementText hidentifier hop hnode harguments operand new
          have hfilled : Argument.filledAmong all node operands ∘ Argument.replace operand new =
              Argument.filledAmong all node (operand :: operands) :=
            funext (Argument.filledAmong_replace hresource)
          rw [ih hnext hreplaced htext, List.map_map (l := arguments), hfilled]

/-- In the statement of a variable the arguments are filled in one by one, and what is left
unresolved are the placeholders among them. -/
theorem Variable.filled_of_statement {v : Variable} (hall : ∀ w ∈ all, '(' ∉ w.identifier.toList)
    (hidentifier : '(' ∉ v.identifier.toList) (hop : ¬ placeholderOpening.toList <:+: op.toList)
    (hnode : ¬ placeholderOpening.toList <:+: v.node.toList) {arguments : List Argument}
    (harguments : ∀ argument ∈ arguments, argument.Harmless)
    (hstatement : v.statement = statementText v.identifier op v.node (arguments.map Argument.text))
    (hunresolved : v.unresolved = arguments.filterMap Argument.operand?) :
    (v.filled all).statement = statementText v.identifier op v.node
        ((arguments.map (Argument.filled all v.node)).map Argument.text) ∧
      (v.filled all).unresolved =
        (arguments.map (Argument.filled all v.node)).filterMap Argument.operand? := by
  have hfilled : arguments.map (Argument.filledAmong all v.node v.unresolved) =
      arguments.map (Argument.filled all v.node) := by
    refine List.map_congr_left fun argument hargument => ?_
    cases argument with
    | identifier text => rfl
    | placeholder operand =>
        have hmem : operand ∈ v.unresolved := by
          rw [hunresolved]
          exact List.mem_filterMap.mpr ⟨_, hargument, rfl⟩
        rw [Argument.filledAmong, if_pos hmem]
  constructor
  · rw [← hfilled]
    exact foldl_fillOperand_of_statement hall hidentifier hop hnode v.unresolved
      (v := { v with unresolved := [] }) rfl harguments hstatement
  · rw [Variable.filled_eq, Argument.filterMap_operand?_filled, ← hunresolved]

end Statements
end LayerNet
