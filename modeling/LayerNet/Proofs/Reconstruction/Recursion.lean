import LayerNet.Proofs.Reconstruction.Lists

/-!
# The declaration of a node as a recursion

A node is declared with a stack, names in progress, and a second look at an operand once its node
has got a variable.  All this comes to a plain recursion: the operands of a node are answered from
left to right, an operand whose node has no variable yet by declaring that node in the same way
first, and then the node is declared.  The recursion only has to be told the names of the nodes that
it is being made for, which are those in progress.  There are fewer nodes left that it can be made
for each time, so that it ends.

Nothing is assumed of the session: places and identifiers need not agree with its variables.

Main definitions:

- `Session.answers`, `Session.defineByRecursion`: the recursion.
- `Session.Alike`: sessions that are the same but for the names in progress.
- `Session.Extends`: sessions in which nothing that was there is changed.
- `Session.StepsAnswer`: the steps that answer the operands of a node on the stack.

Main results:

- `extends_answers`: the recursion leaves what there was.
- `exists_steps_answers`: what is done with the stack is what the recursion does.
- `define_eq_recursion`: so it is with the declaration of a node.
-/

namespace LayerNet

open Stage Relation

/-! ## Frames -/

namespace Frame

/-- The frame after all operands that were still to come, with the answers to them. -/
def answered (f : Frame) (arguments : List Argument) : Frame :=
  ⟨f.node, [], f.arguments ++ arguments.map Argument.text,
    f.unresolved ++ arguments.filterMap Argument.operand?⟩

/-- A frame is answered by the arguments of its pending operands, in their order. -/
theorem answered_nil {f : Frame} (hpending : f.pending = []) : f.answered [] = f := by
  rcases f with ⟨node, pending, arguments, unresolved⟩
  cases hpending
  simp [answered]

theorem answered_withArgument (f : Frame) (text : String) (pending : List String)
    (arguments : List Argument) : (f.withArgument text pending).answered arguments =
      f.answered (.identifier text :: arguments) := by
  simp [answered, withArgument, Argument.text, Argument.operand?, List.filterMap_cons]

theorem answered_withPlaceholder (f : Frame) (name : String) (pending : List String)
    (arguments : List Argument) : (f.withPlaceholder name pending).answered arguments =
      f.answered (.placeholder name :: arguments) := by
  simp [answered, withPlaceholder, Argument.text, Argument.operand?]

end Frame

namespace Session

/-! ## The recursion -/

section Recursion

variable (options : ReconstructionOptions) (nodes : List GraphNode)

/-- Declares a node with the answers to its operands. -/
def declareNode (s : Session) (node : GraphNode) (arguments : List Argument) : String × Session :=
  s.declare node.cleanedName
    (statementTemplate node.op node.cleanedName (arguments.map Argument.text))
    (arguments.filterMap Argument.operand?)

/-- How many nodes of a list are not on the way. -/
def offWay (nodes : List GraphNode) (way : List String) : Nat :=
  nodes.countP fun node => !way.contains node.cleanedName

/-- A name of a node that is put on the way leaves fewer nodes off it. -/
theorem offWay_cons_lt {options : ReconstructionOptions} {nodes : List GraphNode}
    {way : List String} {name : String} {node : GraphNode} (hway : name ∉ way)
    (hnode : options.nodeOf? nodes name = some node) :
    offWay nodes (name :: way) < offWay nodes way := by
  rcases ReconstructionOptions.nodeOf?_spec hnode with ⟨hmem, rfl, -⟩
  refine countP_lt_of_lost hmem (fun other h => ?_) (by simp) (by simpa using hway)
  simp only [List.contains_cons, Bool.not_or, Bool.and_eq_true] at h
  exact h.2

/-- The answers to operands of some names, from left to right, with the session after them.  An
operand with a variable is answered with its identifier; one that is on the way, with a placeholder;
one with a node, by declaring the node after its own operands; one that is named like a resource, by
declaring a handle; any other one, with a placeholder. -/
def answers (way : List String) (s : Session) : List String → List Argument × Session
  | [] => ([], s)
  | name :: names =>
    match s.find? name with
    | some (_, v) =>
      let later := answers way s names
      (.identifier v.identifier :: later.1, later.2)
    | none =>
      if _hway : name ∈ way then
        let later := answers way s names
        (.placeholder name :: later.1, later.2)
      else
        match _hnode : options.nodeOf? nodes name with
        | some node =>
          let upstream := answers (name :: way) s (node.inputs.map cleanName)
          let declared := upstream.2.declareNode node upstream.1
          let later := answers way declared.2 names
          (.identifier declared.1 :: later.1, later.2)
        | none =>
          if Text.endsWith resourceSuffix name then
            let handle := s.declareHandle name
            let later := answers way handle.2 names
            (.identifier handle.1 :: later.1, later.2)
          else
            let later := answers way s names
            (.placeholder name :: later.1, later.2)
termination_by names => (offWay nodes way, names.length)
decreasing_by
  · exact Prod.Lex.right _ (Nat.lt_succ_self _)
  · exact Prod.Lex.right _ (Nat.lt_succ_self _)
  · exact Prod.Lex.left _ _ (offWay_cons_lt _hway _hnode)
  · exact Prod.Lex.right _ (Nat.lt_succ_self _)
  · exact Prod.Lex.right _ (Nat.lt_succ_self _)
  · exact Prod.Lex.right _ (Nat.lt_succ_self _)

/-- Declares a node after its operands, unless it is an internal call or has a variable. -/
def defineByRecursion (s : Session) (root : GraphNode) : Session :=
  if options.isInternal root.cleanedName = true ∨ root.cleanedName ∈ s.places then s
  else
    let upstream := answers options nodes [root.cleanedName] s (root.inputs.map cleanName)
    (upstream.2.declareNode root upstream.1).2

end Recursion

/-! ## What was there -/

section Extends

variable {s t u : Session} {name template : String} {unresolved : List String}

/-- Whether a session has all variables of another one in front, and all its places. -/
structure Extends (s t : Session) : Prop where
  isPrefix : s.toList <+: t.toList
  places : ∀ (name : String) (i : Nat), s.places[name]? = some i → t.places[name]? = some i

theorem Extends.refl (s : Session) : s.Extends s :=
  ⟨List.prefix_refl _, fun _ _ => id⟩

/-- A session is extended by more work. -/
theorem Extends.trans (h : s.Extends t) (h' : t.Extends u) : s.Extends u :=
  ⟨h.isPrefix.trans h'.isPrefix, fun name i hplace => h'.places name i (h.places name i hplace)⟩

/-- The declaration of a name without a variable changes nothing that was there. -/
theorem extends_declare (hnew : name ∉ s.places) :
    s.Extends (s.declare name template unresolved).2 where
  isPrefix := prefix_declare
  places other i hplace := by
    have hother : name ≠ other := by
      rintro rfl
      rw [Std.HashMap.getElem?_eq_none hnew] at hplace
      cases hplace
    rw [declare, Std.HashMap.getElem?_insert, if_neg (by simpa using hother)]
    exact hplace

/-- A name that was declared is found, with the identifier that was given for it. -/
theorem find?_declare_self : (s.declare name template unresolved).2.find? name =
    some (s.declared.size, s.added name template unresolved) := by
  rw [find?_eq_some_iff]
  exact ⟨Std.HashMap.getElem?_insert_self, Array.getElem?_push_size⟩

end Extends

section Kept

variable {options : ReconstructionOptions} {nodes : List GraphNode}

/-- The recursion leaves what there was, and declares no name that is on the way. -/
theorem extends_answers (way : List String) (s : Session) (names : List String) :
    s.Extends (answers options nodes way s names).2 ∧
      ∀ name ∈ way, name ∉ s.places → name ∉ (answers options nodes way s names).2.places := by
  fun_induction answers options nodes way s names with
  | case1 way s => exact ⟨.refl s, fun _ _ => id⟩
  | case2 way s name names i v hfind later ih => exact ih
  | case3 way s name names hfind hway later ih => exact ih
  | case4 way s name names hfind hway node hnode upstream declared later ihUpstream ih =>
      -- the name is on the way of its own operands, so that none of them declares it
      have hnew : name ∉ s.places := find?_eq_none_iff.mp hfind
      have hname : node.cleanedName = name := (ReconstructionOptions.wants_of_nodeOf? hnode).2
      have hstill : node.cleanedName ∉ upstream.2.places :=
        hname ▸ ihUpstream.2 name List.mem_cons_self hnew
      refine ⟨ihUpstream.1.trans ((extends_declare hstill).trans ih.1), fun other hother hnot => ?_⟩
      refine ih.2 other hother fun hplace => ?_
      rcases mem_places_declare.mp hplace with heq | hplace
      · exact hway (hname ▸ heq ▸ hother)
      · exact ihUpstream.2 other (List.mem_cons_of_mem _ hother) hnot hplace
  | case5 way s name names hfind hway hnode hresource handle later ih =>
      have hnew : name ∉ s.places := find?_eq_none_iff.mp hfind
      refine ⟨(extends_declare hnew).trans ih.1, fun other hother hnot => ?_⟩
      refine ih.2 other hother fun hplace => ?_
      rcases mem_places_declare.mp hplace with rfl | hplace
      · exact hway hother
      · exact hnot hplace
  | case6 way s name names hfind hway hnode hresource later ih => exact ih

/-- The recursion changes nothing that was there. -/
theorem extends_defineByRecursion (s : Session) (root : GraphNode) :
    s.Extends (s.defineByRecursion options nodes root) := by
  unfold defineByRecursion
  split <;> rename_i hdone
  · exact .refl s
  · rw [not_or] at hdone
    rcases @extends_answers options nodes [root.cleanedName] s
      (root.inputs.map cleanName) with ⟨hextends, hway⟩
    exact hextends.trans (extends_declare (hway _ List.mem_cons_self hdone.2))

end Kept

/-! ## Sessions that differ in what is in progress -/

section Alike

variable {s t : Session} {name : String}

/-- Whether two sessions are the same but for the names in progress. -/
structure Alike (s t : Session) : Prop where
  declared_eq : s.declared = t.declared
  places_eq : s.places = t.places
  identifiers_eq : s.identifiers = t.identifiers
  suffixes_eq : s.suffixes = t.suffixes

theorem Alike.refl (s : Session) : s.Alike s :=
  ⟨rfl, rfl, rfl, rfl⟩

theorem Alike.enter (h : s.Alike t) (name : String) : (s.enter name).Alike t :=
  ⟨h.declared_eq, h.places_eq, h.identifiers_eq, h.suffixes_eq⟩

theorem Alike.leave (h : s.Alike t) (name : String) : (s.leave name).Alike t :=
  ⟨h.declared_eq, h.places_eq, h.identifiers_eq, h.suffixes_eq⟩

/-- Sessions that are alike answer alike. -/
theorem Alike.find?_eq (h : s.Alike t) (name : String) : s.find? name = t.find? name := by
  rcases s with ⟨declared, places, inProgress, identifiers, suffixes, hlt⟩
  rcases t with ⟨declared', places', inProgress', identifiers', suffixes', hlt'⟩
  cases h.declared_eq
  cases h.places_eq
  rfl

/-- The same declaration gives the same identifier, and sessions that are alike again. -/
theorem Alike.declare (h : s.Alike t) (name template : String) (unresolved : List String) :
    (s.declare name template unresolved).1 = (t.declare name template unresolved).1 ∧
      (s.declare name template unresolved).2.Alike (t.declare name template unresolved).2 := by
  rcases s with ⟨declared, places, inProgress, identifiers, suffixes, hlt⟩
  rcases t with ⟨declared', places', inProgress', identifiers', suffixes', hlt'⟩
  cases h.declared_eq
  cases h.places_eq
  cases h.identifiers_eq
  cases h.suffixes_eq
  exact ⟨rfl, rfl, rfl, rfl, rfl⟩

end Alike

/-! ## The stack -/

section Stack

variable {options : ReconstructionOptions} {nodes : List GraphNode} {s t : Session}
  {way : List String}

/-- Whether a session is that of the recursion, and the names in progress are those on the way. -/
structure Follows (way : List String) (s t : Session) : Prop extends Alike s t where
  inProgress_iff : ∀ name, name ∈ s.inProgress ↔ name ∈ way

/-- Going deeper adds to the way. -/
theorem Follows.enter (h : Follows way s t) (name : String) :
    Follows (name :: way) (s.enter name) t where
  toAlike := h.toAlike.enter name
  inProgress_iff other := by rw [mem_inProgress_enter, h.inProgress_iff, List.mem_cons]

/-- A declaration leaves the names in progress as they are. -/
theorem Follows.declare (h : Follows way s t) (name template : String) (unresolved : List String) :
    Follows way (s.declare name template unresolved).2 (t.declare name template unresolved).2 where
  toAlike := (h.toAlike.declare name template unresolved).2
  inProgress_iff := h.inProgress_iff

/-- A node on top of the stack that has got the answers to its operands is declared with them. -/
theorem Follows.finish {node : GraphNode} (h : Follows (node.cleanedName :: way) s t)
    (hway : node.cleanedName ∉ way) (arguments : List Argument) :
    Follows way (s.finish ((Frame.start node).answered arguments))
      (t.declareNode node arguments).2 where
  toAlike := ((h.toAlike.leave node.cleanedName).declare _ _ _).2
  inProgress_iff other := by
    have hprogress : other ∈ (s.finish ((Frame.start node).answered arguments)).inProgress ↔
        other ≠ node.cleanedName ∧ other ∈ s.inProgress := mem_inProgress_leave
    rw [hprogress, h.inProgress_iff, List.mem_cons]
    constructor
    · rintro ⟨hne, heq | hmem⟩
      · exact absurd heq hne
      · exact hmem
    · intro hmem
      exact ⟨fun heq => hway (heq ▸ hmem), Or.inr hmem⟩

/-- An operand whose node was declared is answered with the identifier of its variable. -/
theorem Follows.resolve_eq {node : GraphNode} {arguments : List Argument}
    (h : Follows way s (t.declareNode node arguments).2) (options : ReconstructionOptions)
    (nodes : List GraphNode) : s.resolve options nodes node.cleanedName =
      .identifier (t.declareNode node arguments).1 := by
  rw [resolve, h.find?_eq, declareNode, find?_declare_self]
  rfl

/-- Whether steps lead from one session to another one and answer the operands of some names,
whatever node they are the operands of and whatever is below it on the stack. -/
def StepsAnswer (options : ReconstructionOptions) (nodes : List GraphNode) (s s' : Session)
    (names : List String) (arguments : List Argument) : Prop :=
  ∀ (roots : List GraphNode) (f : Frame) (rest : List Frame), f.pending.map cleanName = names →
    Steps options nodes ⟨roots, s, f :: rest⟩ ⟨roots, s', f.answered arguments :: rest⟩

section StepsAnswer

variable {s' : Session} {name text : String} {names : List String} {arguments : List Argument}

theorem StepsAnswer.nil : StepsAnswer options nodes s s [] [] := by
  intro roots f rest hpending
  rw [Frame.answered_nil (List.map_eq_nil_iff.mp hpending)]

/-- An operand that is declared is answered without work; here and below the other operands go on
from where it leaves the session. -/
theorem StepsAnswer.identifier (h : StepsAnswer options nodes s s' names arguments)
    (hresolve : s.resolve options nodes name = .identifier text) :
    StepsAnswer options nodes s s' (name :: names) (.identifier text :: arguments) := by
  intro roots f rest hpending
  rcases List.map_eq_cons_iff.mp hpending with ⟨operand, pending, hf, rfl, hrest⟩
  rw [← Frame.answered_withArgument f text pending]
  exact .head (.identifier hf hresolve) (h roots _ rest hrest)

theorem StepsAnswer.placeholder (h : StepsAnswer options nodes s s' names arguments)
    (hresolve : s.resolve options nodes name = .placeholder) :
    StepsAnswer options nodes s s' (name :: names) (.placeholder name :: arguments) := by
  intro roots f rest hpending
  rcases List.map_eq_cons_iff.mp hpending with ⟨operand, pending, hf, rfl, hrest⟩
  rw [← Frame.answered_withPlaceholder f (cleanName operand) pending]
  exact .head (.placeholder hf hresolve) (h roots _ rest hrest)

/-- A handle is declared and its identifier is the answer. -/
theorem StepsAnswer.handle
    (h : StepsAnswer options nodes (s.declareHandle name).2 s' names arguments)
    (hresolve : s.resolve options nodes name = .handle) :
    StepsAnswer options nodes s s' (name :: names)
      (.identifier (s.declareHandle name).1 :: arguments) := by
  intro roots f rest hpending
  rcases List.map_eq_cons_iff.mp hpending with ⟨operand, pending, hf, rfl, hrest⟩
  rw [← Frame.answered_withArgument f (s.declareHandle (cleanName operand)).1 pending]
  exact .head (.handle hf hresolve) (h roots _ rest hrest)

/-- A node is entered, its operands are answered, it is declared, and then it is looked at again. -/
theorem StepsAnswer.enter {node : GraphNode} {middle : Session} {upstream : List Argument}
    (h : StepsAnswer options nodes (middle.finish ((Frame.start node).answered upstream)) s'
      (name :: names) arguments)
    (hupstream : StepsAnswer options nodes (s.enter name) middle (node.inputs.map cleanName)
      upstream)
    (hresolve : s.resolve options nodes name = .enter node) :
    StepsAnswer options nodes s s' (name :: names) arguments := by
  intro roots f rest hpending
  rcases List.map_eq_cons_iff.mp hpending with ⟨operand, pending, hf, rfl, -⟩
  refine .head (.enter hf hresolve) ((hupstream roots (Frame.start node) (f :: rest) rfl).trans ?_)
  exact .head (.finish rfl) (h roots f rest hpending)

end StepsAnswer

/-- What is done with the stack for the operands that the top has still to look at is what the
recursion does. -/
theorem exists_steps_answers (way : List String) (t : Session) (names : List String) :
    ∀ s, Follows way s t → ∃ s', Follows way s' (answers options nodes way t names).2 ∧
      StepsAnswer options nodes s s' names (answers options nodes way t names).1 := by
  fun_induction answers options nodes way t names with
  | case1 way t => exact fun s h => ⟨s, h, .nil⟩
  | case2 way t name names i v hfind later ih =>
      intro s h
      have hresolve : s.resolve options nodes name = .identifier v.identifier := by
        rw [resolve, h.find?_eq, hfind]
      rcases ih s h with ⟨s', h', hsteps⟩
      exact ⟨s', h', hsteps.identifier hresolve⟩
  | case3 way t name names hfind hmem later ih =>
      intro s h
      have hresolve : s.resolve options nodes name = .placeholder := by
        simp [resolve, h.find?_eq, hfind, h.inProgress_iff, hmem]
      rcases ih s h with ⟨s', h', hsteps⟩
      exact ⟨s', h', hsteps.placeholder hresolve⟩
  | case4 way t name names hfind hmem node hnode upstream declared later ihUpstream ih =>
      intro s h
      have henter : s.resolve options nodes name = .enter node := by
        simp [resolve, h.find?_eq, hfind, h.inProgress_iff, hmem, hnode]
      rcases ihUpstream _ (h.enter name) with ⟨middle, hmiddle, hupstream⟩
      obtain rfl : node.cleanedName = name := (ReconstructionOptions.wants_of_nodeOf? hnode).2
      have hdeclared : Follows way _ declared.2 := hmiddle.finish hmem upstream.1
      rcases ih _ hdeclared with ⟨s', h', hsteps⟩
      -- once its node is declared, the operand is looked at again, and found
      have hagain := hsteps.identifier (hdeclared.resolve_eq options nodes)
      exact ⟨s', h', hagain.enter hupstream henter⟩
  | case5 way t name names hfind hmem hnode hresource handle later ih =>
      intro s h
      have hresolve : s.resolve options nodes name = .handle := by
        simp [resolve, h.find?_eq, hfind, h.inProgress_iff, hmem, hnode, hresource]
      have hidentifier : (s.declareHandle name).1 = handle.1 := (h.toAlike.declare _ _ _).1
      rcases ih _ (h.declare name (statementTemplate handleOp name []) []) with ⟨s', h', hsteps⟩
      refine ⟨s', h', ?_⟩
      rw [← hidentifier]
      exact StepsAnswer.handle hsteps hresolve
  | case6 way t name names hfind hmem hnode hresource later ih =>
      intro s h
      have hresolve : s.resolve options nodes name = .placeholder := by
        simp [resolve, h.find?_eq, hfind, h.inProgress_iff, hmem, hnode, hresource]
      rcases ih s h with ⟨s', h', hsteps⟩
      exact ⟨s', h', hsteps.placeholder hresolve⟩

/-- The turn of a node, from an idle session on, leads to what the recursion leaves. -/
theorem exists_steps_defineByRecursion (hidle : ∀ name, name ∉ s.inProgress) (root : GraphNode) :
    ∃ s', Follows [] s' (s.defineByRecursion options nodes root) ∧
      Steps options nodes ⟨[root], s, []⟩ ⟨[], s', []⟩ := by
  have hstart : Follows [] s s := ⟨.refl s, fun name => by simp [hidle]⟩
  unfold defineByRecursion
  split <;> rename_i hdone
  · exact ⟨s, hstart, .single (.skip hdone)⟩
  · rw [not_or, Bool.not_eq_true] at hdone
    rcases @exists_steps_answers options nodes [root.cleanedName] s
      (root.inputs.map cleanName) _ (hstart.enter root.cleanedName) with ⟨s₁, h₁, hupstream⟩
    refine ⟨_, h₁.finish List.not_mem_nil _, .head (.root hdone.1 hdone.2) ?_⟩
    exact (hupstream [] (Frame.start root) [] rfl).tail (.finish rfl)

/-- The session after the turn of a node is the one that steps lead to. -/
theorem define_eq_of_steps {root : GraphNode} {s' : Session}
    (h : Steps options nodes ⟨[root], s, []⟩ ⟨[], s', []⟩) : s.define options nodes root = s' := by
  have hend := outcome_eq_of_steps h
  simpa [outcome, run] using hend

end Stack

/-! ## Nodes -/

/-- Only what is declared matters to an extension, not what is in progress. -/
theorem Alike.extends {s t u : Session} (h : u.Alike t) (hextends : s.Extends t) : s.Extends u where
  isPrefix := by
    have hlist : u.toList = t.toList := congrArg Array.toList h.declared_eq
    rw [hlist]
    exact hextends.isPrefix
  places := by
    rw [h.places_eq]
    exact hextends.places

/-- From an idle session on, with whatever variables, places and identifiers, the declaration of a
node comes to an end: no work with the stack goes on forever.  It leaves the session idle, changes
nothing that was there, and leaves otherwise what the recursion leaves. -/
theorem define_eq_recursion (options : ReconstructionOptions) (nodes : List GraphNode) {s : Session}
    (hidle : ∀ name, name ∉ s.inProgress) (root : GraphNode) :
    (WellFounded fun next st : Stage => Step options nodes st next) ∧
      Steps options nodes ⟨[root], s, []⟩ ⟨[], s.define options nodes root, []⟩ ∧
      (∀ name, name ∉ (s.define options nodes root).inProgress) ∧
      s.Extends (s.define options nodes root) ∧
      (s.define options nodes root).Alike (s.defineByRecursion options nodes root) := by
  rcases @exists_steps_defineByRecursion options nodes s hidle root with
    ⟨s', hfollows, hsteps⟩
  rw [define_eq_of_steps hsteps]
  refine ⟨wellFounded_step options nodes, hsteps, fun name => ?_,
    hfollows.toAlike.extends (extends_defineByRecursion s root), hfollows.toAlike⟩
  rw [hfollows.inProgress_iff]
  exact List.not_mem_nil

/-- Two nodes that are operands of each other, and another one that has the name of the first. -/
def twinNodes : List GraphNode :=
  [⟨"a", "Add", ["b:0", "w_resource", "a"]⟩, ⟨"b", "Neg", ["^a", "c_resource"]⟩,
    ⟨"a", "Sub", ["b"]⟩]

/-- A session with the handle of a resource. -/
def handleSession : Session :=
  (empty.declareHandle "w_resource").2

/-- Two of the nodes have one name, of which the first counts, and there are ways through operands
that come back to a node in progress. -/
theorem define_eq_recursion_twinNodes : (∀ name, name ∉ handleSession.inProgress) ∧
    ∀ root ∈ twinNodes, (∀ name, name ∉ (handleSession.define {} twinNodes root).inProgress) ∧
      handleSession.Extends (handleSession.define {} twinNodes root) ∧
      (handleSession.define {} twinNodes root).Alike
        (handleSession.defineByRecursion {} twinNodes root) := by
  have hidle : ∀ name, name ∉ handleSession.inProgress := settled_empty.idle
  refine ⟨hidle, fun root _ => ?_⟩
  exact (define_eq_recursion {} twinNodes hidle root).2.2

end Session
end LayerNet
