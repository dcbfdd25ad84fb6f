import LayerNet.Network.Assembly
import LayerNet.Proofs.Network.WalkInvariant

/-!
# Putting layers in order

The walks behind the outputs, one after another, either put everything upstream of the outputs in
order, or stop at the first output that does not exist or from which a cycle is reached.

Main results:

- `Settled.visit_cases`: what the walk behind a further output leads to.
- `Settled.foldlM_visit_cases`, `outcome_assemblyOrder`: what the walks behind all outputs lead to.
-/

namespace LayerNet
namespace Network

open Relation

variable {net : Network} {outputs : List LayerId} {w : Walk}

/-- Once the stack is empty, what was met is finished. -/
theorem Tracks.mem_order {above : List LayerId} (h : net.Tracks outputs above w)
    (hstack : w.stack = []) {id : LayerId} (hid : id ∈ w.marks) : id ∈ w.order := by
  rcases Option.isSome_iff_exists.mp (Std.HashMap.isSome_getElem?_iff_mem.mpr hid) with
    ⟨mark, hmark⟩
  cases mark with
  | visiting =>
      have hmem := (h.visiting_iff id).mp hmark
      rw [hstack] at hmem
      exact absurd hmem List.not_mem_nil
  | done => exact (h.done_iff id).mp hmark

/-! ## Walks behind outputs -/

/-- What holds between the walks: nothing is on the stack, and all outputs so far are finished. -/
structure Settled (net : Network) (outputs : List LayerId) (w : Walk) : Prop where
  tracks : net.Tracks outputs [] w
  stack_eq : w.stack = []
  mem_order : ∀ output ∈ outputs, output ∈ w.order

theorem settled_empty (net : Network) : net.Settled [] {} :=
  ⟨tracks_empty net, rfl, by simp⟩

/-- The layers finished are those upstream of the outputs. -/
theorem Settled.mem_order_iff (h : net.Settled outputs w) {id : LayerId} :
    id ∈ w.order ↔ ∃ output ∈ outputs, net.Upstream output id := by
  constructor
  · intro hid
    exact h.tracks.behind id .done ((h.tracks.done_iff id).mpr hid)
  · rintro ⟨output, hmem, hup⟩
    exact h.tracks.follow.mem_of_upstream (h.mem_order output hmem) hup

theorem Settled.lt_size (h : net.Settled outputs w) {id : LayerId} (hid : id ∈ w.order) :
    id < net.size :=
  h.tracks.lt_size id .done ((h.tracks.done_iff id).mpr hid)

theorem Settled.output_spec (h : net.Settled outputs w) {output : LayerId}
    (hmem : output ∈ outputs) : output < net.size ∧ ¬ net.ReachesCycle output := by
  have hdone : output ∈ w.order := h.mem_order output hmem
  exact ⟨h.lt_size hdone, h.tracks.follow.not_reachesCycle h.tracks.order_nodup hdone⟩

/-- An output that was met behind an earlier one is finished already. -/
theorem Settled.append (h : net.Settled outputs w) {output : LayerId} (hmet : output ∈ w.marks) :
    net.Settled (outputs ++ [output]) w := by
  refine ⟨h.tracks.append [output], h.stack_eq, fun other hother => ?_⟩
  rcases List.mem_append.mp hother with hother | hother
  · exact h.mem_order other hother
  · rw [List.mem_singleton.mp hother]
    exact h.tracks.mem_order h.stack_eq hmet

/-- An output that was not met may be entered. -/
theorem Settled.enter (h : net.Settled outputs w) {output : LayerId} (hlt : output < net.size)
    (hmet : output ∉ w.marks) : net.Tracks (outputs ++ [output]) [] (w.enter output) := by
  have hmore : net.Tracks (outputs ++ [output]) [] w := h.tracks.append [output]
  have hlooked : net.Looked w.order [output] w.stack := by
    rw [h.stack_eq]
    trivial
  refine Tracks.enter { hmore with looked := hlooked } (Std.HashMap.getElem?_eq_none hmet) hlt ?_ ?_
  · exact ⟨output, List.mem_append_right _ List.mem_cons_self, Upstream.refl net output⟩
  · simp [h.stack_eq]

theorem Settled.mem_marks_enter (h : net.Settled outputs w) {output other : LayerId}
    (hother : other ∈ outputs ++ [output]) : other ∈ (w.enter output).marks := by
  refine Std.HashMap.mem_insert.mpr ?_
  rcases List.mem_append.mp hother with hother | hother
  · have hmark := (h.tracks.done_iff other).mpr (h.mem_order other hother)
    exact Or.inr (Std.HashMap.mem_iff_isSome_getElem?.mpr (hmark ▸ rfl))
  · exact Or.inl (beq_iff_eq.mpr (List.mem_singleton.mp hother).symm)

/-- A further output does not exist, or all that is upstream of it gets finished, or a cycle behind
it is met. -/
theorem Settled.visit_cases (h : net.Settled outputs w) (hnet : net.WellFormed)
    (output : LayerId) :
    (∃ final, net.visit w output = .ok final ∧ net.Settled (outputs ++ [output]) final) ∨
      (net.size ≤ output ∧ net.visit w output = .error (.unknownNode output)) ∨
      ∃ layer, net.visit w output = .error (.cycle layer.name) ∧
        net.CycleBehind (outputs ++ [output]) layer := by
  unfold visit
  split
  · rename_i hmissing
    rcases layer_eq_error_iff.mp hmissing with ⟨hle, rfl⟩
    exact Or.inr (Or.inl ⟨hle, rfl⟩)
  · rename_i layer hlayer
    have hlt : output < net.size := lt_size_of_layer? (layer_eq_ok_iff.mp hlayer)
    split <;> rename_i hmet
    · exact Or.inl ⟨w, rfl, h.append hmet⟩
    · rcases (h.enter hlt hmet).walk hnet (fun _ hother => h.mem_marks_enter hother) with
        ⟨final, hwalk, htracks, hstack, hfinal⟩ | ⟨layer, hwalk, hcycle⟩
      · refine Or.inl ⟨final, hwalk, htracks, hstack, ?_⟩
        exact fun other hother => htracks.mem_order hstack (hfinal other hother)
      · exact Or.inr (Or.inr ⟨layer, hwalk, hcycle⟩)

/-- All further outputs get finished, or the first that does not exist is met after outputs without
cycles behind them, or a cycle is met. -/
theorem Settled.foldlM_visit_cases (h : net.Settled outputs w) (hnet : net.WellFormed)
    (more : List LayerId) :
    (∃ final, more.foldlM net.visit w = .ok final ∧ net.Settled (outputs ++ more) final) ∨
      (∃ before id after, more = before ++ id :: after ∧ net.size ≤ id ∧
        (∀ output ∈ before, output < net.size ∧ ¬ net.ReachesCycle output) ∧
        more.foldlM net.visit w = .error (.unknownNode id)) ∨
      ∃ layer, more.foldlM net.visit w = .error (.cycle layer.name) ∧
        net.CycleBehind (outputs ++ more) layer := by
  -- on the outputs that are left; `outputs` are those that were walked behind
  induction more generalizing outputs w with
  | nil =>
      refine Or.inl ⟨w, rfl, ?_⟩
      rw [List.append_nil]
      exact h
  | cons output more ih =>
      have happend : outputs ++ output :: more = (outputs ++ [output]) ++ more := by simp
      rcases h.visit_cases hnet output with
        ⟨next, hvisit, hnext⟩ | ⟨hle, hvisit⟩ | ⟨layer, hvisit, hcycle⟩
      · have hfold : (output :: more).foldlM net.visit w = more.foldlM net.visit next := by
          rw [List.foldlM_cons, hvisit]
          rfl
        rw [hfold, happend]
        rcases ih hnext with hok | ⟨before, id, after, rfl, hle, hbefore, hunknown⟩ | hcycle
        · exact Or.inl hok
        · refine Or.inr (Or.inl ⟨output :: before, id, after, rfl, hle, ?_, hunknown⟩)
          intro other hother
          rcases List.mem_cons.mp hother with rfl | hother
          · exact hnext.output_spec (List.mem_append_right _ List.mem_cons_self)
          · exact hbefore other hother
        · exact Or.inr (Or.inr hcycle)
      · refine Or.inr (Or.inl ⟨[], output, more, rfl, hle, by simp, ?_⟩)
        rw [List.foldlM_cons, hvisit]
        rfl
      · refine Or.inr (Or.inr ⟨layer, ?_, ?_⟩)
        · rw [List.foldlM_cons, hvisit]
          rfl
        · rw [happend]
          exact hcycle.append more

/-! ## Outcomes -/

/-- What comes of putting the layers behind the outputs in order. -/
inductive Outcome (net : Network) (outputs : List LayerId) :
    Except NetworkError (List LayerId) → Prop where
  | noOutputs (outputs_eq : outputs = []) : Outcome net outputs (.error .noOutputs)
  | ordered {w : Walk} (outputs_ne : outputs ≠ []) (settled : net.Settled outputs w) :
      Outcome net outputs (.ok w.order)
  | unknownNode {before after : List LayerId} {id : LayerId}
      (outputs_eq : outputs = before ++ id :: after) (size_le : net.size ≤ id)
      (before_spec : ∀ output ∈ before, output < net.size ∧ ¬ net.ReachesCycle output) :
      Outcome net outputs (.error (.unknownNode id))
  | cycle {layer : Layer} (behind : net.CycleBehind outputs layer) :
      Outcome net outputs (.error (.cycle layer.name))

theorem outcome_assemblyOrder (hnet : net.WellFormed) (outputs : List LayerId) :
    net.Outcome outputs (net.assemblyOrder outputs) := by
  unfold assemblyOrder
  split <;> rename_i hempty
  · exact .noOutputs (List.isEmpty_iff.mp hempty)
  · have hne : outputs ≠ [] := fun heq => hempty (List.isEmpty_iff.mpr heq)
    rcases (settled_empty net).foldlM_visit_cases hnet outputs with
      ⟨final, hfold, hsettled⟩ | ⟨before, id, after, heq, hle, hbefore, hfold⟩ |
      ⟨layer, hfold, hcycle⟩
    · rw [hfold]
      exact .ordered hne hsettled
    · rw [hfold]
      exact .unknownNode heq hle hbefore
    · rw [hfold]
      exact .cycle hcycle

end Network
end LayerNet
