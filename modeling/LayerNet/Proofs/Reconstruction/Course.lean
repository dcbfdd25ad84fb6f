import Mathlib.Logic.Relation
import LayerNet.Reconstruction.Session

/-!
# The course of a reconstruction

The nodes of a list get their turn one after another, and each is worked off with a stack.  This
module cuts that work into steps, so that what every step keeps is kept by the whole work, and so
that one can speak of what happens on the way.

Main definitions:

- `Stage`: a state of the work on a list.
- `Stage.Step`: one step, with one case for each thing that can happen.

Main results:

- `Stage.wellFounded_step`: no work goes on forever.
- `Stage.steps_defineAll`: the work on a list is a sequence of steps.
- `Stage.steps_end_of_steps`: every state on the way leads to the same end.
- `Stage.defineAll_eq_of_isInternal_eq`: of the options only the internal calls matter.
-/

namespace LayerNet

open Relation

/-- A state of the work on a list: the nodes whose turn is still to come, the session, and the stack
of those being looked at. -/
structure Stage where
  roots : List GraphNode
  session : Session
  stack : List Frame

namespace Stage

section Steps

variable (options : ReconstructionOptions) (nodes : List GraphNode)

/-- One step of the work on a list.  With an empty stack a node gets its turn; else the node on top
is declared, or its next operand is looked at. -/
inductive Step : Stage → Stage → Prop where
  | skip {roots : List GraphNode} {root : GraphNode} {s : Session}
      (hdone : options.isInternal root.cleanedName = true ∨ root.cleanedName ∈ s.places) :
      Step ⟨root :: roots, s, []⟩ ⟨roots, s, []⟩
  | root {roots : List GraphNode} {root : GraphNode} {s : Session}
      (hinternal : options.isInternal root.cleanedName = false)
      (hnew : root.cleanedName ∉ s.places) :
      Step ⟨root :: roots, s, []⟩ ⟨roots, s.enter root.cleanedName, [Frame.start root]⟩
  | finish {roots : List GraphNode} {s : Session} {f : Frame} {rest : List Frame}
      (hpending : f.pending = []) :
      Step ⟨roots, s, f :: rest⟩ ⟨roots, s.finish f, rest⟩
  | identifier {roots : List GraphNode} {s : Session} {f : Frame} {rest : List Frame}
      {operand text : String} {pending : List String} (hpending : f.pending = operand :: pending)
      (hresolve : s.resolve options nodes (cleanName operand) = .identifier text) :
      Step ⟨roots, s, f :: rest⟩ ⟨roots, s, f.withArgument text pending :: rest⟩
  | handle {roots : List GraphNode} {s : Session} {f : Frame} {rest : List Frame}
      {operand : String} {pending : List String} (hpending : f.pending = operand :: pending)
      (hresolve : s.resolve options nodes (cleanName operand) = .handle) :
      Step ⟨roots, s, f :: rest⟩ ⟨roots, (s.declareHandle (cleanName operand)).2,
        f.withArgument (s.declareHandle (cleanName operand)).1 pending :: rest⟩
  | placeholder {roots : List GraphNode} {s : Session} {f : Frame} {rest : List Frame}
      {operand : String} {pending : List String} (hpending : f.pending = operand :: pending)
      (hresolve : s.resolve options nodes (cleanName operand) = .placeholder) :
      Step ⟨roots, s, f :: rest⟩ ⟨roots, s, f.withPlaceholder (cleanName operand) pending :: rest⟩
  | enter {roots : List GraphNode} {s : Session} {f : Frame} {rest : List Frame}
      {operand : String} {pending : List String} {node : GraphNode}
      (hpending : f.pending = operand :: pending)
      (hresolve : s.resolve options nodes (cleanName operand) = .enter node) :
      Step ⟨roots, s, f :: rest⟩
        ⟨roots, s.enter (cleanName operand), Frame.start node :: f :: rest⟩

/-- Any number of steps. -/
abbrev Steps : Stage → Stage → Prop :=
  ReflTransGen (Step options nodes)

end Steps

variable {options : ReconstructionOptions} {nodes : List GraphNode}

/-! ## No work goes on forever -/

/-- How many nodes are still to get their turn, how many are left to be entered, and how many steps
those on the stack take if none is. -/
def measure (nodes : List GraphNode) (st : Stage) : Nat × Nat × Nat :=
  (st.roots.length, st.session.openNodes nodes, Session.pendingSteps st.stack)

/-- A step leaves less to do. -/
theorem measure_of_step {st next : Stage} (h : Step options nodes st next) :
    Prod.Lex (· < ·) (Prod.Lex (· < ·) (· < ·)) (next.measure nodes) (st.measure nodes) := by
  cases h with
  | skip hdone => exact Prod.Lex.left _ _ (Nat.lt_succ_self _)
  | root hinternal hnew => exact Prod.Lex.left _ _ (Nat.lt_succ_self _)
  | finish hpending =>
      refine Prod.Lex.right _ (Prod.Lex.right' _ (Session.openNodes_finish_le _ _ nodes) ?_)
      simp [Session.pendingSteps]
  | identifier hpending hresolve =>
      refine Prod.Lex.right _ (Prod.Lex.right _ ?_)
      simp [Session.pendingSteps, Frame.withArgument, hpending]
  | handle hpending hresolve =>
      refine Prod.Lex.right _ (Prod.Lex.right' _ (Session.openNodes_declareHandle_le _ _ nodes) ?_)
      simp [Session.pendingSteps, Frame.withArgument, hpending]
  | placeholder hpending hresolve =>
      refine Prod.Lex.right _ (Prod.Lex.right _ ?_)
      simp [Session.pendingSteps, Frame.withPlaceholder, hpending]
  | enter hpending hresolve =>
      rcases Session.enter_spec hresolve with ⟨hmem, hname, hopen⟩
      refine Prod.Lex.right _ (Prod.Lex.left _ _ ?_)
      rw [← hname]
      exact Session.openNodes_enter_lt hmem hopen

/-- Steps always get to an end, whatever stage they start from. -/
theorem wellFounded_step (options : ReconstructionOptions) (nodes : List GraphNode) :
    WellFounded fun next st : Stage => Step options nodes st next := by
  have hlex : WellFounded (Prod.Lex (· < · : Nat → Nat → Prop)
      (Prod.Lex (· < · : Nat → Nat → Prop) (· < · : Nat → Nat → Prop))) :=
    (Prod.lex Nat.lt_wfRel (Prod.lex Nat.lt_wfRel Nat.lt_wfRel)).wf
  exact Subrelation.wf measure_of_step (InvImage.wf (measure nodes) hlex)

/-! ## The end of the work -/

/-- The session in the end. -/
def outcome (options : ReconstructionOptions) (nodes : List GraphNode) (st : Stage) : Session :=
  st.roots.foldl (Session.define options nodes) (Session.run options nodes st.session st.stack)

/-- A step changes nothing of the session in the end. -/
theorem outcome_eq_of_step {st next : Stage} (h : Step options nodes st next) :
    st.outcome options nodes = next.outcome options nodes := by
  cases h with
  | skip hdone =>
      have hdefine : ∀ s : Session, ∀ root : GraphNode,
          (options.isInternal root.cleanedName = true ∨ root.cleanedName ∈ s.places) →
          Session.define options nodes s root = s := by
        intro s root h
        simp only [Session.define, Bool.or_eq_true, Std.HashMap.contains_iff_mem, if_pos h]
      rw [outcome, outcome, Session.run, List.foldl_cons, hdefine _ _ hdone]
  | @root roots root s hinternal hnew =>
      have hdefine : Session.define options nodes s root =
          Session.run options nodes (s.enter root.cleanedName) [Frame.start root] := by
        simp [Session.define, hinternal, hnew]
      rw [outcome, outcome, Session.run, List.foldl_cons, hdefine]
  | finish hpending => rw [outcome, outcome, Session.run, hpending]
  | identifier hpending hresolve =>
      rw [outcome, outcome, Session.run, hpending]
      dsimp only
      rw [hresolve]
  | handle hpending hresolve =>
      rw [outcome, outcome, Session.run, hpending]
      dsimp only
      rw [hresolve]
  | placeholder hpending hresolve =>
      rw [outcome, outcome, Session.run, hpending]
      dsimp only
      rw [hresolve]
  | enter hpending hresolve =>
      rw [outcome, outcome, Session.run, hpending]
      dsimp only
      rw [hresolve]

theorem outcome_eq_of_steps {st next : Stage} (h : Steps options nodes st next) :
    st.outcome options nodes = next.outcome options nodes := by
  induction h with
  | refl => rfl
  | tail _ hstep ih => exact ih.trans (outcome_eq_of_step hstep)

/-- Working off a stack is a sequence of steps. -/
theorem steps_run (roots : List GraphNode) (s : Session) (stack : List Frame) :
    Steps options nodes ⟨roots, s, stack⟩ ⟨roots, Session.run options nodes s stack, []⟩ := by
  fun_induction Session.run options nodes s stack with
  | case1 s => exact .refl
  | case2 s f rest hpending ih => exact .head (.finish hpending) ih
  | case3 s f rest operand pending hpending name text hresolve ih =>
      exact .head (.identifier hpending hresolve) ih
  | case4 s f rest operand pending hpending name hresolve handle ih =>
      exact .head (.handle hpending hresolve) ih
  | case5 s f rest operand pending hpending name hresolve ih =>
      exact .head (.placeholder hpending hresolve) ih
  | case6 s f rest operand pending hpending name node hresolve ih =>
      exact .head (.enter hpending hresolve) ih

/-- From every state on the way steps lead to the end. -/
theorem steps_outcome (st : Stage) :
    Steps options nodes st ⟨[], st.outcome options nodes, []⟩ := by
  obtain ⟨roots, s, stack⟩ := st
  refine (steps_run roots s stack).trans ?_
  rw [outcome]
  generalize Session.run options nodes s stack = s'
  induction roots generalizing s' with
  | nil => exact .refl
  | cons root roots ih =>
      rw [List.foldl_cons, Session.define]
      split <;> rename_i hdone
      · refine .head (.skip ?_) (ih s')
        simpa using hdone
      · rw [Bool.or_eq_true, not_or, Bool.not_eq_true, Std.HashMap.contains_iff_mem] at hdone
        exact .head (.root hdone.1 hdone.2) ((steps_run roots _ _).trans (ih _))

/-- The work on a list is a sequence of steps. -/
theorem steps_defineAll (s : Session) :
    Steps options nodes ⟨nodes, s, []⟩ ⟨[], s.defineAll options nodes, []⟩ := by
  have hend : Stage.outcome options nodes ⟨nodes, s, []⟩ = s.defineAll options nodes := by
    rw [outcome, Session.run]
    rfl
  rw [← hend]
  exact steps_outcome _

/-- Every state on the way leads to the same end. -/
theorem steps_end_of_steps {s : Session} {st : Stage} (h : Steps options nodes ⟨nodes, s, []⟩ st) :
    Steps options nodes st ⟨[], s.defineAll options nodes, []⟩ := by
  have hend : st.outcome options nodes = s.defineAll options nodes := by
    rw [← outcome_eq_of_steps h, outcome, Session.run]
    rfl
  rw [← hend]
  exact steps_outcome st

/-! ## Options -/

/-- Of the options only the internal calls matter to a step. -/
theorem Step.of_isInternal_eq {options' : ReconstructionOptions}
    (hinternal : options.isInternal = options'.isInternal) {st next : Stage}
    (h : Step options nodes st next) : Step options' nodes st next := by
  have hresolve (s : Session) (name : String) :
      s.resolve options nodes name = s.resolve options' nodes name := by
    simp only [Session.resolve, ReconstructionOptions.nodeOf?, hinternal]
  cases h with
  | skip hdone => exact .skip (hinternal ▸ hdone)
  | root hroot hnew => exact .root (hinternal ▸ hroot) hnew
  | finish hpending => exact .finish hpending
  | identifier hpending h => exact .identifier hpending ((hresolve _ _).symm.trans h)
  | handle hpending h => exact .handle hpending ((hresolve _ _).symm.trans h)
  | placeholder hpending h => exact .placeholder hpending ((hresolve _ _).symm.trans h)
  | enter hpending h => exact .enter hpending ((hresolve _ _).symm.trans h)

/-- So it is with the work on a list. -/
theorem defineAll_eq_of_isInternal_eq {options' : ReconstructionOptions}
    (hinternal : options.isInternal = options'.isInternal) (s : Session) :
    s.defineAll options nodes = s.defineAll options' nodes := by
  have hsteps : Steps options' nodes ⟨nodes, s, []⟩ ⟨[], s.defineAll options nodes, []⟩ :=
    ReflTransGen.mono (fun _ _ => Step.of_isInternal_eq hinternal) _ _ (steps_defineAll s)
  have hend := outcome_eq_of_steps hsteps
  rw [outcome, outcome, Session.run, Session.run] at hend
  exact hend.symm

end Stage
end LayerNet
