import LayerNet.Proofs.Distinct
import LayerNet.Proofs.Network.Assembly

/-!
# The order of a walk as a recursion

The walk keeps a stack and marks, but the order that it leaves is that of a plain recursion: of each
layer that is not yet in the order, first what is behind its inputs, one after the other, and then
the layer itself.  A layer of the stack stands for a recursion that is still under way: what is left
of it are the inputs that were not looked at, and then the layer.

The recursion does not look ahead, so that more outputs only put more layers at the end.

Main definitions:

- `Network.Emits`: the recursion.
- `Network.Resumes`: the recursions that the layers of a stack stand for.

Main results:

- `Resumes.of_walk`: a walk does what its stack stands for.
- `emits_iff`: the walks behind outputs leave the order of the recursion.
- `assemble_recursion`: so it is with assemblies, and more outputs leave what there was in front.
-/

namespace LayerNet

namespace Network

open Relation

variable {net : Network} {outputs ids more order middle final : List LayerId} {w : Walk}

/-! ## The recursion -/

/-- Emits layers behind an order that there is, with all that is behind them: a layer of the order
is passed over; of any other one first the inputs are emitted, in order, and then the layer. -/
inductive Emits (net : Network) : List LayerId → List LayerId → List LayerId → Prop where
  | nil {order : List LayerId} : Emits net order [] order
  | skip {order ids final : List LayerId} {id : LayerId} (hmem : id ∈ order)
      (hrest : Emits net order ids final) : Emits net order (id :: ids) final
  | emit {order middle ids final : List LayerId} {id : LayerId} {layer : Layer} (hnew : id ∉ order)
      (hlayer : net.layer? id = some layer) (hinputs : Emits net order layer.inputs middle)
      (hrest : Emits net (middle ++ [id]) ids final) : Emits net order (id :: ids) final

/-- The recursion leaves one order at most. -/
theorem Emits.functional {final' : List LayerId} (h : net.Emits order ids final)
    (h' : net.Emits order ids final') : final = final' := by
  induction h generalizing final' with
  | nil =>
      cases h'
      rfl
  | skip hmem _ ih =>
      cases h' with
      | skip _ hrest => exact ih hrest
      | emit hnew => exact absurd hmem hnew
  | emit hnew hlayer _ _ ihInputs ihRest =>
      cases h' with
      | skip hmem => exact absurd hmem hnew
      | emit _ hlayer' hinputs hrest =>
          cases hlayer.symm.trans hlayer'
          rw [← ihInputs hinputs] at hrest
          exact ihRest hrest

/-- The order that there is stays in front. -/
theorem Emits.isPrefix (h : net.Emits order ids final) : order <+: final := by
  induction h with
  | nil => exact List.prefix_refl _
  | skip _ _ ih => exact ih
  | emit _ _ _ _ ihInputs ihRest =>
      exact ihInputs.trans ((List.prefix_append _ _).trans ihRest)

theorem Emits.subset (h : net.Emits order ids final) : ids ⊆ final := by
  induction h with
  | nil => exact List.nil_subset _
  | skip hmem hrest ih => exact List.cons_subset.mpr ⟨hrest.isPrefix.subset hmem, ih⟩
  | emit _ _ _ hrest _ ihRest =>
      refine List.cons_subset.mpr ⟨hrest.isPrefix.subset ?_, ihRest⟩
      exact List.mem_append_right _ List.mem_cons_self

/-- What is emitted for some layers and then for more is emitted for all of them. -/
theorem Emits.append (h : net.Emits order ids middle) (hmore : net.Emits middle more final) :
    net.Emits order (ids ++ more) final := by
  induction h with
  | nil => exact hmore
  | skip hmem _ ih => exact .skip hmem (ih hmore)
  | emit hnew hlayer hinputs _ _ ih => exact .emit hnew hlayer hinputs (ih hmore)

/-- On the way to the end some layers are emitted before the others. -/
theorem Emits.exists_middle (h : net.Emits order (ids ++ more) final) :
    ∃ middle, net.Emits order ids middle ∧ net.Emits middle more final := by
  induction ids generalizing order with
  | nil => exact ⟨order, .nil, h⟩
  | cons id ids ih =>
      cases h with
      | skip hmem hrest =>
          rcases ih hrest with ⟨middle, hids, hmore⟩
          exact ⟨middle, .skip hmem hids, hmore⟩
      | emit hnew hlayer hinputs hrest =>
          rcases ih hrest with ⟨middle, hids, hmore⟩
          exact ⟨middle, .emit hnew hlayer hinputs hids, hmore⟩

/-- A cycle is reached from a layer only by way of one of its inputs. -/
theorem ReachesCycle.exists_input {id : LayerId} (h : net.ReachesCycle id) :
    ∃ input, net.FedBy id input ∧ net.ReachesCycle input := by
  rcases h with ⟨source, hup, hcycle⟩
  rcases ReflTransGen.cases_head hup with rfl | ⟨input, hfed, hrest⟩
  · rcases TransGen.head'_iff.mp hcycle with ⟨input, hfed, hrest⟩
    exact ⟨input, hfed, id, hrest, hcycle⟩
  · exact ⟨input, hfed, source, hrest, hcycle⟩

/-- What is emitted are layers that no cycle is reached from: the recursion comes to an end. -/
theorem Emits.spec (h : net.Emits order ids final)
    (horder : ∀ id ∈ order, id < net.size ∧ ¬ net.ReachesCycle id) :
    ∀ id ∈ final, id < net.size ∧ ¬ net.ReachesCycle id := by
  induction h with
  | nil => exact horder
  | skip _ _ ih => exact ih horder
  | @emit order middle ids final id layer _ hlayer hinputs _ ihInputs ihRest =>
      refine ihRest fun other hother => ?_
      rcases List.mem_append.mp hother with hother | hother
      · exact ihInputs horder other hother
      · rw [List.mem_singleton.mp hother]
        refine ⟨lt_size_of_layer? hlayer, fun hcycle => ?_⟩
        rcases hcycle.exists_input with ⟨input, hfed, hinput⟩
        rw [FedBy, inputs_of_layer? hlayer] at hfed
        exact (ihInputs horder input (hinputs.subset hfed)).2 hinput

/-! ## The stack -/

/-- What is left of the recursions that the layers of a stack stand for, innermost first: of each
layer the inputs that were not looked at, and then the layer. -/
def Resumes (net : Network) : List LayerId → List Visit → List LayerId → Prop
  | order, [], final => order = final
  | order, visit :: rest, final =>
    ∃ middle, net.Emits order ((net.inputs visit.id).drop visit.next) middle ∧
      net.Resumes (middle ++ [visit.id]) rest final

/-- A move does one thing of what the stack stands for. -/
theorem Resumes.of_move {above : List LayerId} {next : Walk} (htracks : net.Tracks outputs above w)
    (hmove : net.Move w next) (h : net.Resumes next.order next.stack final) :
    net.Resumes w.order w.stack final := by
  cases hmove with
  | @finish top rest hstack hlt hall =>
      rw [hstack]
      refine ⟨w.order, ?_, h⟩
      rw [List.drop_of_length_le hall]
      exact .nil
  | @skip top rest input hstack hinput hdone =>
      rcases h with ⟨middle, hemits, hrest⟩
      rw [hstack]
      refine ⟨middle, ?_, hrest⟩
      rw [List.drop_eq_getElem?_toList_append, hinput]
      exact .skip ((htracks.done_iff input).mp hdone) hemits
  | @enter top rest input hstack hinput hnew hlt =>
      rcases h with ⟨inner, hinner, middle, hemits, hrest⟩
      rcases exists_layer?_of_lt_size hlt with ⟨layer, hlayer⟩
      have hnot : input ∉ w.order := by
        rw [← htracks.done_iff, hnew]
        simp
      rw [hstack]
      refine ⟨middle, ?_, hrest⟩
      rw [List.drop_eq_getElem?_toList_append, hinput]
      refine .emit hnot hlayer ?_ hemits
      rw [← inputs_of_layer? hlayer]
      exact hinner

/-- A walk does what its stack stands for. -/
theorem Resumes.of_walk {last : Walk} (htracks : net.Tracks outputs [] w)
    (h : net.walk w = .ok last) : net.Resumes w.order w.stack last.order := by
  fun_induction net.walk w with
  | case1 w e hstep => cases h
  | case2 w hstep =>
      cases h
      rw [step_eq_none_iff.mp hstep]
      rfl
  | case3 w next hstep ih =>
      have hmove : net.Move w next := move_of_step hstep
      exact (ih (htracks.move hmove) h).of_move htracks hmove

/-! ## Walks behind outputs -/

/-- The walk behind a further output leaves the order of the recursion. -/
theorem Settled.emits_of_visit {output : LayerId} {last : Walk} (h : net.Settled outputs w)
    (hvisit : net.visit w output = .ok last) : net.Emits w.order [output] last.order := by
  unfold visit at hvisit
  split at hvisit
  · cases hvisit
  · rename_i layer hlayer
    rw [layer_eq_ok_iff] at hlayer
    split at hvisit <;> rename_i hmet
    · cases hvisit
      exact .skip (h.tracks.mem_order h.stack_eq hmet) .nil
    · have hnot : output ∉ w.order := by
        rw [← h.tracks.done_iff, Std.HashMap.getElem?_eq_none hmet]
        simp
      rcases Resumes.of_walk (h.enter (lt_size_of_layer? hlayer) hmet) hvisit with
        ⟨middle, hemits, hrest⟩
      rw [h.stack_eq] at hrest
      rw [inputs_of_layer? hlayer, List.drop_zero] at hemits
      exact .emit hnot hlayer hemits (hrest ▸ .nil)

theorem Settled.emits_of_foldlM {last : Walk} (h : net.Settled outputs w) (hnet : net.WellFormed)
    (hfold : more.foldlM net.visit w = .ok last) : net.Emits w.order more last.order := by
  induction more generalizing outputs w with
  | nil =>
      cases hfold
      exact .nil
  | cons output more ih =>
      rw [List.foldlM_cons] at hfold
      rcases bind_eq_ok_iff.mp hfold with ⟨next, hvisit, hrest⟩
      rcases h.visit_cases hnet output with
        ⟨next', hvisit', hnext⟩ | ⟨-, hvisit'⟩ | ⟨layer, hvisit', -⟩
      · cases hvisit.symm.trans hvisit'
        exact (h.emits_of_visit hvisit).append (ih hnext hrest)
      · cases hvisit.symm.trans hvisit'
      · cases hvisit.symm.trans hvisit'

/-- Outputs that no cycle is reached from are walked behind. -/
theorem exists_foldlM_visit_eq_ok (hnet : net.WellFormed)
    (hspec : ∀ output ∈ outputs, output < net.size ∧ ¬ net.ReachesCycle output) :
    ∃ last, outputs.foldlM net.visit {} = .ok last := by
  rcases (settled_empty net).foldlM_visit_cases hnet outputs with
    ⟨last, hfold, -⟩ | ⟨before, id, after, rfl, hle, -, -⟩ | ⟨layer, -, hbehind⟩
  · exact ⟨last, hfold⟩
  · have hlt := (hspec id (List.mem_append_right before List.mem_cons_self)).1
    exact absurd hlt (Nat.not_lt.mpr hle)
  · rcases hbehind with ⟨id, -, hcycle, output, hmem, hup⟩
    exact absurd ⟨id, hup, hcycle⟩ (hspec output hmem).2

/-- The recursion comes to an end exactly for outputs that no cycle is reached from. -/
theorem exists_emits_iff (hnet : net.WellFormed) : (∃ order, net.Emits [] outputs order) ↔
    ∀ output ∈ outputs, output < net.size ∧ ¬ net.ReachesCycle output := by
  constructor
  · rintro ⟨order, hemits⟩ output hmem
    exact hemits.spec (by simp) output (hemits.subset hmem)
  · intro hspec
    rcases exists_foldlM_visit_eq_ok hnet hspec with ⟨last, hfold⟩
    exact ⟨last.order, (settled_empty net).emits_of_foldlM hnet hfold⟩

/-- The walks behind outputs leave the order of the recursion, and none where the recursion does not
end. -/
theorem emits_iff (hnet : net.WellFormed) :
    (outputs.foldlM net.visit {}).map Walk.order = .ok order ↔ net.Emits [] outputs order := by
  constructor
  · intro h
    cases hfold : outputs.foldlM net.visit {} with
    | error e =>
        rw [hfold] at h
        cases h
    | ok last =>
        rw [hfold] at h
        cases h
        exact (settled_empty net).emits_of_foldlM hnet hfold
  · intro hemits
    rcases exists_foldlM_visit_eq_ok hnet ((exists_emits_iff hnet).mp ⟨order, hemits⟩) with
      ⟨last, hfold⟩
    rw [hfold, hemits.functional ((settled_empty net).emits_of_foldlM hnet hfold)]
    rfl

/-! ## Assemblies -/

theorem emits_of_assemble (hnet : net.WellFormed) {a : Assembly}
    (h : net.assemble outputs = .ok a) :
    net.Emits [] outputs a.order := by
  rcases assemble_eq_ok_iff.mp h with ⟨order, _, _, _, horder, -, -, -, rfl⟩
  unfold assemblyOrder at horder
  split at horder
  · cases horder
  · exact (emits_iff hnet).mp horder

/-- Whether an assembly is the first part of another one, in everything that it lists. -/
structure IsFront (a b : Assembly) : Prop where
  order : a.order <+: b.order
  layers : a.definition.layers <+: b.definition.layers
  inputs : a.inputs <+: b.inputs
  inputLayers : a.definition.inputLayers <+: b.definition.inputLayers
  outputLayers : a.definition.outputLayers <+: b.definition.outputLayers
  definitions : a.definitions <+: b.definitions

/-- An assembly is the first part of one with more outputs. -/
theorem isFront_of_assemble (hnet : net.WellFormed) {a b : Assembly}
    (ha : net.assemble outputs = .ok a) (hb : net.assemble (outputs ++ more) = .ok b) :
    IsFront a b := by
  have horder : a.order <+: b.order := by
    rcases (emits_of_assemble hnet hb).exists_middle with ⟨middle, houtputs, hmore⟩
    rw [(emits_of_assemble hnet ha).functional houtputs]
    exact hmore.isPrefix
  rcases assemble_eq_ok_iff.mp ha with
    ⟨order, layers, records, outputLayers, -, hlayers, hrecords, houtputs, rfl⟩
  rcases assemble_eq_ok_iff.mp hb with
    ⟨order', layers', records', outputLayers', -, hlayers', hrecords', houtputs', rfl⟩
  have hfront : layers <+: layers' := prefix_of_mapM_eq_ok horder hlayers hlayers'
  have hinputs := hfront.filterMap Layer.signature?
  refine ⟨horder, prefix_of_mapM_eq_ok horder hrecords hrecords', hinputs,
    hinputs.map InputSignature.name, ?_, hfront.filterMap _⟩
  rcases prefix_of_mapM_eq_ok (List.prefix_append outputs more) houtputs houtputs' with ⟨rest, rfl⟩
  rw [List.map_append]
  exact eraseDups_prefix_append _ _

/-- The walks behind outputs leave the order of the plain recursion, which comes to an end exactly
if all outputs are layers that no cycle is reached from; the order of an assembly is this one.  So
an assembly is the first part of one with more outputs. -/
theorem assemble_recursion (h : net.Reachable) (outputs : List LayerId) :
    (∀ order, (outputs.foldlM net.visit {}).map Walk.order = .ok order ↔
        net.Emits [] outputs order) ∧
      ((∃ order, net.Emits [] outputs order) ↔
        ∀ output ∈ outputs, output < net.size ∧ ¬ net.ReachesCycle output) ∧
      (∀ a, net.assemble outputs = .ok a → net.Emits [] outputs a.order) ∧
      ∀ (more : List LayerId) (a b : Assembly), net.assemble outputs = .ok a →
        net.assemble (outputs ++ more) = .ok b → IsFront a b :=
  ⟨fun _ => emits_iff h.wellFormed, exists_emits_iff h.wellFormed,
    fun _ => emits_of_assemble h.wellFormed, fun _ _ _ => isFront_of_assemble h.wellFormed⟩

/-- Inputs that come later and inputs that are repeated: a layer is emitted where it is met
first. -/
theorem emits_tangled : tangled.Emits [] [3] [0, 4, 1, 2, 3] := by
  have h0 : tangled.Emits [] [0] [0] := .emit (by decide) rfl .nil .nil
  have h4 : tangled.Emits [] [4] [0, 4] := .emit (by decide) rfl h0 .nil
  have h1 : tangled.Emits [] [1] [0, 4, 1] := .emit (by decide) rfl h4 .nil
  have h2 : tangled.Emits [0, 4, 1] [2] [0, 4, 1, 2] :=
    .emit (by decide) rfl (.skip (by decide) .nil) .nil
  have hinputs : tangled.Emits [] [1, 2, 1] [0, 4, 1, 2] :=
    h1.append (h2.append (.skip (by decide) .nil))
  exact .emit (by decide) rfl hinputs .nil

theorem assemble_recursion_tangled :
    ∃ a b, tangled.assemble [3] = .ok a ∧ tangled.assemble ([3] ++ [2, 4]) = .ok b ∧
      a.order = [0, 4, 1, 2, 3] ∧ IsFront a b := by
  rcases assemble_recursion reachable_tangled [3] with ⟨-, -, horder, hfront⟩
  have hspec : ∀ output ∈ [3, 2, 4], output < tangled.size ∧ ¬ tangled.ReachesCycle output := by
    intro output hmem
    refine output_spec_tangled ?_
    revert output
    decide
  have hfirst : ∀ output ∈ [3], output < tangled.size ∧ ¬ tangled.ReachesCycle output :=
    fun output hmem => hspec output (List.mem_append_left [2, 4] hmem)
  rcases exists_assemble_eq_ok reachable_tangled.wellFormed (by decide) hfirst with ⟨a, ha⟩
  rcases exists_assemble_eq_ok reachable_tangled.wellFormed (by decide) hspec with ⟨b, hb⟩
  exact ⟨a, b, ha, hb, (horder a ha).functional emits_tangled, hfront [2, 4] a b ha hb⟩

end Network
end LayerNet
