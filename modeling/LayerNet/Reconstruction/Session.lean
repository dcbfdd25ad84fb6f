import Std.Data.HashMap
import Std.Data.HashSet
import LayerNet.Counting
import LayerNet.NameRegistry
import LayerNet.Reconstruction.Identifier
import LayerNet.SavedGraph.Basic
import LayerNet.Text.Quoted

/-!
# Reconstruction of statements

Every node of a saved graph is turned into a statement that declares a variable for it.  A node's
operands are looked at from left to right, and an operand whose node has no variable yet gets it
first.  An operand without a node that is named like a resource becomes a handle of its own; any
other operand that cannot be had is left as a placeholder, and so is one that a cycle leads back to.
In the end the placeholders are filled in for which a resource of the same name turned up.

The nodes on the way to the one that is being looked at form a stack, and their names are in
progress.  An operand is entered only if it has no variable and is not in progress, so that each
name is entered at most once.

Main definitions:

- `Variable`: a statement with what it stands for.
- `Session`: the variables declared so far, and how they are found.
- `Session.define`: a node declared after its operands.
- `Session.fillIn`: placeholders replaced by resources found later.
- `SavedGraph.reconstruct`: the variables of a graph.
-/

namespace LayerNet

/-! ## Options -/

/-- What is reconstructed: the functions whose name contains the marker, and the main graph if it is
wanted; nodes whose name begins like an internal call are left out. -/
structure ReconstructionOptions where
  functionMarker : String := "__inference_learn"
  internalCalls : List String := ["StatefulPartitionedCall", "PartitionedCall"]
  includeMainGraph : Bool := false
deriving DecidableEq, Repr

/-- Whether a name is that of an internal call. -/
def ReconstructionOptions.isInternal (options : ReconstructionOptions) (name : String) : Bool :=
  options.internalCalls.any fun start => Text.beginsWith start name

/-- The node of a list that stands for a name, unless the name is that of an internal call. -/
def ReconstructionOptions.nodeOf? (options : ReconstructionOptions) (nodes : List GraphNode)
    (name : String) : Option GraphNode :=
  if options.isInternal name then none else GraphNode.lookup? nodes name

/-- A node that is found is one of the list and is not internal. -/
theorem ReconstructionOptions.nodeOf?_spec {options : ReconstructionOptions}
    {nodes : List GraphNode} {name : String} {node : GraphNode}
    (h : options.nodeOf? nodes name = some node) :
    node ∈ nodes ∧ node.cleanedName = name ∧ options.isInternal name = false := by
  unfold nodeOf? at h
  split at h
  · simp at h
  · rename_i hinternal
    exact ⟨GraphNode.mem_of_lookup? h, GraphNode.cleanedName_of_lookup? h,
      Bool.eq_false_iff.2 hinternal⟩

/-! ## Variables -/

/-- A declared variable: its identifier, the name of its node, its statement, and the operands that
are still placeholders in it. -/
structure Variable where
  identifier : String
  node : String
  statement : String
  unresolved : List String
deriving DecidableEq, Repr

/-- How the names of resources end. -/
def resourceSuffix : String :=
  "_resource"

/-- How placeholders begin. -/
def placeholderOpening : String :=
  "unresolved("

/-- What stands for an operand that could not be had. -/
def placeholder (name : String) : String :=
  placeholderOpening ++ Text.quote name ++ ")"

/-- The operation of a handle. -/
def handleOp : String :=
  "VarHandleOp"

/-- The mark in a template where the identifier goes. -/
def identifierMark : String :=
  "\x7b\x7d"

/-- The statement for a node, with a mark for the identifier of its variable. -/
def statementTemplate (op name : String) (arguments : List String) : String :=
  "let " ++ identifierMark ++ " = op::" ++ op ++ "(scope.sub_scope(" ++ Text.quote name ++ ")"
    ++ String.join (arguments.map fun argument => ", " ++ argument) ++ ");"

/-! ## Sessions -/

/-- The variables declared so far, the place of each name's variable among them, the names in
progress, the identifiers in use, and the registry for names instead of identifiers in use. -/
structure Session where
  declared : Array Variable := #[]
  places : Std.HashMap String Nat := {}
  inProgress : Std.HashSet String := {}
  identifiers : Std.HashSet String := {}
  suffixes : NameRegistry := {}
  lt_size : ∀ (name : String) (i : Nat), places[name]? = some i → i < declared.size := by simp

namespace Session

/-- The session in which nothing has been declared. -/
def empty : Session := {}

/-- The variable of a node name, with its place. -/
def find? (s : Session) (name : String) : Option (Nat × Variable) :=
  match h : s.places[name]? with
  | some i =>
    have := s.lt_size name i h
    some (i, s.declared[i])
  | none => none

theorem find?_eq_none_iff {s : Session} {name : String} :
    s.find? name = none ↔ name ∉ s.places := by
  rw [Std.HashMap.mem_iff_isSome_getElem?, Option.not_isSome_iff_eq_none, find?]
  split <;> rename_i h <;> simp [h]

theorem find?_eq_some_iff {s : Session} {name : String} {i : Nat} {v : Variable} :
    s.find? name = some (i, v) ↔ s.places[name]? = some i ∧ s.declared[i]? = some v := by
  rw [find?]
  split
  · rename_i j h
    have hlt := s.lt_size name j h
    simp only [h, Option.some.injEq, Prod.mk.injEq]
    refine and_congr_right fun hij => ?_
    rw [← hij, Array.getElem?_eq_getElem hlt, Option.some.injEq]
  · rename_i h
    simp [h]

/-- Puts a name in progress. -/
def enter (s : Session) (name : String) : Session :=
  { s with inProgress := s.inProgress.insert name }

/-- Takes a name out of progress. -/
def leave (s : Session) (name : String) : Session :=
  { s with inProgress := s.inProgress.erase name }

/-- An identifier for a node name that no variable has yet, and the registry after the search. -/
def freshIdentifier (s : Session) (name : String) : String × NameRegistry :=
  let base := identifierOf name
  if s.identifiers.contains base then s.suffixes.fresh s.identifiers.toList base
  else (base, s.suffixes)

/-- Places stay within bounds when a variable is put at the end and its name is given its place. -/
theorem lt_size_push (s : Session) (name : String) (v : Variable) :
    ∀ (other : String) (i : Nat), (s.places.insert name s.declared.size)[other]? = some i →
      i < (s.declared.push v).size := by
  intro other i h
  rw [Array.size_push]
  rw [Std.HashMap.getElem?_insert] at h
  split at h
  · simp only [Option.some.injEq] at h
    omega
  · exact Nat.lt_succ_of_lt (s.lt_size other i h)

/-- Declares a variable for a node name, with the statement that a template gives for its
identifier; gives the identifier. -/
def declare (s : Session) (name template : String) (unresolved : List String) :
    String × Session :=
  let identifier := (s.freshIdentifier name).1
  let statement := Text.replaceFirst identifierMark identifier template
  let v : Variable := ⟨identifier, name, statement, unresolved⟩
  (identifier,
    { s with
      declared := s.declared.push v
      places := s.places.insert name s.declared.size
      identifiers := s.identifiers.insert identifier
      suffixes := (s.freshIdentifier name).2
      lt_size := s.lt_size_push name v })

/-- Declares the handle of a resource that has no node. -/
def declareHandle (s : Session) (name : String) : String × Session :=
  s.declare name (statementTemplate handleOp name []) []

end Session

/-! ## Frames -/

/-- A node being looked at: the operands still to come, and the arguments and placeholders of those
before them. -/
structure Frame where
  node : GraphNode
  pending : List String
  arguments : List String := []
  unresolved : List String := []

namespace Frame

/-- A node of which no operand has been looked at. -/
def start (node : GraphNode) : Frame :=
  ⟨node, node.inputs, [], []⟩

/-- The frame after an operand that was had. -/
def withArgument (f : Frame) (argument : String) (pending : List String) : Frame :=
  { f with pending, arguments := f.arguments ++ [argument] }

/-- The frame after an operand that is left as a placeholder. -/
def withPlaceholder (f : Frame) (name : String) (pending : List String) : Frame :=
  { f with
    pending
    arguments := f.arguments ++ [placeholder name]
    unresolved := f.unresolved ++ [name] }

end Frame

/-! ## Operands -/

/-- How an operand is had. -/
inductive Resolution where
  | identifier (text : String)
  | enter (node : GraphNode)
  | handle
  | placeholder

namespace Session

/-- How the operand of a given name is had: as a variable; not at all, if it is in progress; as a
node of the list at hand; as a handle; or not at all. -/
def resolve (s : Session) (options : ReconstructionOptions) (nodes : List GraphNode)
    (name : String) : Resolution :=
  match s.find? name with
  | some (_, v) => .identifier v.identifier
  | none =>
    if s.inProgress.contains name then .placeholder
    else
      match options.nodeOf? nodes name with
      | some node => .enter node
      | none => if Text.endsWith resourceSuffix name then .handle else .placeholder

/-- What each way to have an operand says of its name. -/
inductive Resolves (s : Session) (options : ReconstructionOptions) (nodes : List GraphNode)
    (name : String) : Resolution → Prop where
  | identifier {i : Nat} {v : Variable} (hfind : s.find? name = some (i, v)) :
      Resolves s options nodes name (.identifier v.identifier)
  | cycle (hnew : name ∉ s.places) (hprogress : name ∈ s.inProgress) :
      Resolves s options nodes name .placeholder
  | enter {node : GraphNode} (hnew : name ∉ s.places) (hprogress : name ∉ s.inProgress)
      (hnode : options.nodeOf? nodes name = some node) : Resolves s options nodes name (.enter node)
  | handle (hnew : name ∉ s.places) (hprogress : name ∉ s.inProgress)
      (hnode : options.nodeOf? nodes name = none)
      (hresource : Text.endsWith resourceSuffix name = true) :
      Resolves s options nodes name .handle
  | missing (hnew : name ∉ s.places) (hprogress : name ∉ s.inProgress)
      (hnode : options.nodeOf? nodes name = none)
      (hresource : Text.endsWith resourceSuffix name = false) :
      Resolves s options nodes name .placeholder

/-- How an operand is resolved is one of the cases of `Resolves`, with all that holds in the
case. -/
theorem resolves_resolve (s : Session) (options : ReconstructionOptions) (nodes : List GraphNode)
    (name : String) : s.Resolves options nodes name (s.resolve options nodes name) := by
  unfold resolve
  split
  · rename_i hfind
    exact .identifier hfind
  · rename_i hfind
    have hnew : name ∉ s.places := find?_eq_none_iff.1 hfind
    split
    · rename_i hprogress
      exact .cycle hnew (Std.HashSet.mem_iff_contains.2 hprogress)
    · rename_i hprogress
      have hprogress : name ∉ s.inProgress := fun h => hprogress (Std.HashSet.mem_iff_contains.1 h)
      split
      · rename_i hnode
        exact .enter hnew hprogress hnode
      · rename_i hnode
        split
        · rename_i hresource
          exact .handle hnew hprogress hnode hresource
        · rename_i hresource
          exact .missing hnew hprogress hnode (Bool.eq_false_iff.2 hresource)

theorem resolves_of_resolve_eq {s : Session} {options : ReconstructionOptions}
    {nodes : List GraphNode} {name : String} {resolution : Resolution}
    (h : s.resolve options nodes name = resolution) : s.Resolves options nodes name resolution := by
  rw [← h]
  exact s.resolves_resolve options nodes name

/-- Declares the node of a frame whose operands have all been looked at. -/
def finish (s : Session) (f : Frame) : Session :=
  let name := f.node.cleanedName
  let template := statementTemplate f.node.op name f.arguments
  ((s.leave name).declare name template f.unresolved).2

/-! ## The measure -/

/-- Whether a node has no variable and is not in progress. -/
def isOpen (s : Session) (node : GraphNode) : Bool :=
  !s.places.contains node.cleanedName && !s.inProgress.contains node.cleanedName

/-- How many nodes have no variable and are not in progress. -/
def openNodes (s : Session) (nodes : List GraphNode) : Nat :=
  nodes.countP s.isOpen

/-- How many steps the nodes on the stack take if none is entered. -/
def pendingSteps : List Frame → Nat
  | [] => 0
  | f :: rest => f.pending.length + 1 + pendingSteps rest

/-- A node is open as long as it is neither declared nor in progress. -/
theorem isOpen_eq_true_iff {s : Session} {node : GraphNode} :
    s.isOpen node = true ↔ node.cleanedName ∉ s.places ∧ node.cleanedName ∉ s.inProgress := by
  simp [isOpen]

/-- Finishing a frame opens no node: what was in progress is declared. -/
theorem openNodes_finish_le (s : Session) (f : Frame) (nodes : List GraphNode) :
    (s.finish f).openNodes nodes ≤ s.openNodes nodes := by
  refine List.countP_mono_left fun node _ h => ?_
  rw [isOpen_eq_true_iff] at h ⊢
  simp only [finish, declare, leave, Std.HashMap.mem_insert, Std.HashSet.mem_erase, beq_iff_eq,
    beq_eq_false_iff_ne, not_or, not_and] at h
  exact ⟨h.1.2, h.2 h.1.1⟩

theorem openNodes_declareHandle_le (s : Session) (name : String) (nodes : List GraphNode) :
    (s.declareHandle name).2.openNodes nodes ≤ s.openNodes nodes := by
  refine List.countP_mono_left fun node _ h => ?_
  rw [isOpen_eq_true_iff] at h ⊢
  simp only [declareHandle, declare, Std.HashMap.mem_insert, not_or] at h
  exact ⟨h.1.2, h.2⟩

/-- Entering a node that was open leaves fewer open. -/
theorem openNodes_enter_lt {s : Session} {nodes : List GraphNode} {node : GraphNode}
    (hmem : node ∈ nodes) (h : s.isOpen node = true) :
    (s.enter node.cleanedName).openNodes nodes < s.openNodes nodes := by
  refine countP_lt_of_lost hmem (fun other ho => ?_) (by simp [isOpen, enter]) h
  rw [isOpen_eq_true_iff] at ho ⊢
  simp only [enter, Std.HashSet.mem_insert, not_or] at ho
  exact ⟨ho.1, ho.2.2⟩

/-- What entering an operand says of its node. -/
theorem enter_spec {s : Session} {options : ReconstructionOptions} {nodes : List GraphNode}
    {name : String} {node : GraphNode} (h : s.resolve options nodes name = .enter node) :
    node ∈ nodes ∧ node.cleanedName = name ∧ s.isOpen node = true := by
  cases resolves_of_resolve_eq h with
  | enter hnew hprogress hnode =>
    have hspec := ReconstructionOptions.nodeOf?_spec hnode
    refine ⟨hspec.1, hspec.2.1, ?_⟩
    rw [isOpen_eq_true_iff, hspec.2.1]
    exact ⟨hnew, hprogress⟩

/-! ## Declaring -/

/-- Works off a stack of nodes whose operands are looked at. -/
def run (options : ReconstructionOptions) (nodes : List GraphNode) (s : Session)
    (stack : List Frame) : Session :=
  match stack with
  | [] => s
  | f :: rest =>
    match _hpending : f.pending with
    | [] => run options nodes (s.finish f) rest
    | operand :: pending =>
      let name := cleanName operand
      match _hresolve : s.resolve options nodes name with
      | .identifier text => run options nodes s (f.withArgument text pending :: rest)
      | .handle =>
        let handle := s.declareHandle name
        run options nodes handle.2 (f.withArgument handle.1 pending :: rest)
      | .placeholder => run options nodes s (f.withPlaceholder name pending :: rest)
      | .enter node => run options nodes (s.enter name) (Frame.start node :: f :: rest)
termination_by (s.openNodes nodes, pendingSteps stack)
decreasing_by
  · apply Prod.Lex.right'
    · exact openNodes_finish_le s f nodes
    · simp [pendingSteps]
  · apply Prod.Lex.right'
    · exact Nat.le_refl _
    · simp [pendingSteps, Frame.withArgument, _hpending]
  · apply Prod.Lex.right'
    · exact openNodes_declareHandle_le s name nodes
    · simp [pendingSteps, Frame.withArgument, _hpending]
  · apply Prod.Lex.right'
    · exact Nat.le_refl _
    · simp [pendingSteps, Frame.withPlaceholder, _hpending]
  · apply Prod.Lex.left
    rcases enter_spec _hresolve with ⟨hmem, hname, hopen⟩
    have lt := openNodes_enter_lt hmem hopen
    rw [hname] at lt
    exact lt

/-- Declares a node after its operands, unless it is an internal call or has a variable. -/
def define (options : ReconstructionOptions) (nodes : List GraphNode) (s : Session)
    (node : GraphNode) : Session :=
  if options.isInternal node.cleanedName || s.places.contains node.cleanedName then s
  else run options nodes (s.enter node.cleanedName) [Frame.start node]

/-- Declares all nodes of a list, in order. -/
def defineAll (options : ReconstructionOptions) (s : Session) (nodes : List GraphNode) : Session :=
  nodes.foldl (define options nodes) s

/-! ## Filling in -/

/-- Fills in the placeholder of one operand of a variable, whose place is `i`, if a resource of the
same name has another variable. -/
def fillOperand (s : Session) (i : Nat) (v : Variable) (name : String) : Variable :=
  match s.find? (name ++ resourceSuffix) with
  | some (j, resource) =>
    if j = i then { v with unresolved := v.unresolved ++ [name] }
    else
      let statement := Text.replaceAll (placeholder name) resource.identifier v.statement
      { v with statement }
  | none => { v with unresolved := v.unresolved ++ [name] }

/-- Fills in the placeholders of the variable at place `i`. -/
def fillVariable (s : Session) (i : Nat) (v : Variable) : Variable :=
  v.unresolved.foldl (s.fillOperand i) { v with unresolved := [] }

/-- All variables, with the placeholders filled in that can be. -/
def fillIn (s : Session) : List Variable :=
  (s.declared.mapIdx s.fillVariable).toList

end Session

/-! ## Graphs -/

namespace SavedGraph

/-- The variables of the main graph, placeholders not yet filled in. -/
def mainSession (graph : SavedGraph) (options : ReconstructionOptions) : Session :=
  Session.defineAll options .empty graph.nodes

/-- The variables of the main graph and the marked functions, placeholders not yet filled in. -/
def fullSession (graph : SavedGraph) (options : ReconstructionOptions) : Session :=
  (graph.functionsMatching options.functionMarker).foldl
    (fun s function => s.defineAll options function.nodes) (graph.mainSession options)

/-- The variables of the main graph and the marked functions. -/
def allVariables (graph : SavedGraph) (options : ReconstructionOptions) : List Variable :=
  (graph.fullSession options).fillIn

/-- The reconstructed variables; those of the main graph only if they are wanted. -/
def reconstruct (graph : SavedGraph) (options : ReconstructionOptions) : List Variable :=
  if options.includeMainGraph then graph.allVariables options
  else (graph.allVariables options).drop (graph.mainSession options).declared.size

/-- The statements, one on each line. -/
def statements (graph : SavedGraph) (options : ReconstructionOptions) : String :=
  "\n".intercalate ((graph.reconstruct options).map Variable.statement)

end SavedGraph

end LayerNet
