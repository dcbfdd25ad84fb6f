import LayerNet.Proofs.Network.Order
import LayerNet.Proofs.Outcome

/-!
# What an assembly leads to

An assembly puts the layers behind the outputs in order and then writes their records, which cannot
fail any more: every id that is left is that of a layer.

Main results:

- `assemble_eq_ok_iff`: what an assembly is made of.
- `outcome_assemble`: what an assembly leads to.
- `exists_assemble_eq_ok`: what can be assembled.
- `assemble_order`: what the order of an assembly is.
- `assemble_outcomes`: when an assembly succeeds, and what each error says.
-/

namespace LayerNet
namespace Network

open Relation

variable {net : Network} {outputs : List LayerId}

/-! ## Records of an order -/

theorem exists_mapM_layer_eq_ok {ids : List LayerId} (h : ∀ id ∈ ids, id < net.size) :
    ∃ layers, ids.mapM net.layer = .ok layers := by
  refine exists_mapM_eq_ok fun id hid => ?_
  rcases exists_layer?_of_lt_size (h id hid) with ⟨layer, hlayer⟩
  exact ⟨layer, layer_eq_ok_iff.mpr hlayer⟩

theorem record_eq_ok_iff {id : LayerId} {record : LayerRecord} :
    net.record id = .ok record ↔ ∃ layer feeding, net.layer? id = some layer ∧
      layer.inputs.mapM net.layer = .ok feeding ∧
      layer.record (feeding.map Layer.name) = record := by
  unfold Network.record
  simp only [bind_eq_ok_iff, layer_eq_ok_iff, pure, Except.pure, Except.ok.injEq]
  constructor
  · rintro ⟨layer, hlayer, feeding, hfeeding, hrecord⟩
    exact ⟨layer, feeding, hlayer, hfeeding, hrecord⟩
  · rintro ⟨layer, feeding, hlayer, hfeeding, hrecord⟩
    exact ⟨layer, hlayer, feeding, hfeeding, hrecord⟩

theorem WellFormed.exists_record_eq_ok (h : net.WellFormed) {id : LayerId} (hid : id < net.size) :
    ∃ record, net.record id = .ok record := by
  rcases exists_layer?_of_lt_size hid with ⟨layer, hlayer⟩
  rcases exists_mapM_layer_eq_ok (h.fits_of_layer? hlayer).inputs_lt with ⟨feeding, hfeeding⟩
  exact ⟨_, record_eq_ok_iff.mpr ⟨layer, feeding, hlayer, hfeeding, rfl⟩⟩

/-! ## Assemblies -/

/-- An assembly is made of the layers and the records of its order and the layers of its outputs. -/
theorem assemble_eq_ok_iff {a : Assembly} :
    net.assemble outputs = .ok a ↔ ∃ order layers records outputLayers,
      net.assemblyOrder outputs = .ok order ∧ order.mapM net.layer = .ok layers ∧
      order.mapM net.record = .ok records ∧ outputs.mapM net.layer = .ok outputLayers ∧
      a = { order
            definition :=
              { layers := records
                inputLayers := (layers.filterMap Layer.signature?).map InputSignature.name
                outputLayers := (outputLayers.map Layer.name).eraseDups }
            inputs := layers.filterMap Layer.signature?
            definitions := layers.filterMap fun layer => layer.kind.definition? } := by
  unfold assemble
  simp only [bind_eq_ok_iff, pure, Except.pure, Except.ok.injEq]
  constructor
  · rintro ⟨order, horder, layers, hlayers, records, hrecords, outputLayers, houtputs, rfl⟩
    exact ⟨order, layers, records, outputLayers, horder, hlayers, hrecords, houtputs, rfl⟩
  · rintro ⟨order, layers, records, outputLayers, horder, hlayers, hrecords, houtputs, rfl⟩
    exact ⟨order, horder, layers, hlayers, records, hrecords, outputLayers, houtputs, rfl⟩

/-- The records of an assembly stand at the places of their layers. -/
theorem exists_record_of_assemble {a : Assembly} (ha : net.assemble outputs = .ok a) {i : Nat}
    {id : LayerId} (hi : a.order[i]? = some id) :
    ∃ record, a.definition.layers[i]? = some record ∧ net.record id = .ok record := by
  rcases assemble_eq_ok_iff.mp ha with ⟨_, _, _, _, -, -, hrecords, -, rfl⟩
  exact getElem?_of_mapM_eq_ok hrecords hi

/-- Every signature of an assembly is that of one of its layers. -/
theorem exists_layer_of_mem_inputs {a : Assembly} (ha : net.assemble outputs = .ok a)
    {signature : InputSignature} (hmem : signature ∈ a.inputs) :
    ∃ id ∈ a.order, ∃ layer, net.layer? id = some layer ∧ layer.signature? = some signature := by
  rcases assemble_eq_ok_iff.mp ha with ⟨_, layers, _, _, -, hlayers, -, -, rfl⟩
  rcases List.mem_filterMap.mp hmem with ⟨layer, hlayer, hsignature⟩
  rcases exists_of_mem_mapM_eq_ok hlayers hlayer with ⟨id, hid, hok⟩
  exact ⟨id, hid, layer, layer_eq_ok_iff.mp hok, hsignature⟩

/-- Once the layers behind the outputs are in order, nothing else can fail. -/
theorem outcome_assemble (hnet : net.WellFormed) (outputs : List LayerId) :
    net.Outcome outputs ((net.assemble outputs).map Assembly.order) := by
  have horder := outcome_assemblyOrder hnet outputs
  cases hres : net.assemblyOrder outputs with
  | error e =>
      have hassemble : net.assemble outputs = .error e := by
        unfold assemble
        rw [hres]
        rfl
      rw [hres] at horder
      rw [hassemble]
      exact horder
  | ok order =>
      rw [hres] at horder
      cases horder with
      | @ordered w hne hsettled =>
          -- what is left are look-ups of layers that exist
          have hlt : ∀ id ∈ w.order, id < net.size := fun id hid => hsettled.lt_size hid
          rcases exists_mapM_layer_eq_ok hlt with ⟨layers, hlayers⟩
          rcases exists_mapM_eq_ok fun id hid => hnet.exists_record_eq_ok (hlt id hid) with
            ⟨records, hrecords⟩
          rcases exists_mapM_layer_eq_ok fun id hid => (hsettled.output_spec hid).1 with
            ⟨outputLayers, houtputs⟩
          rw [assemble_eq_ok_iff.mpr
            ⟨_, layers, records, outputLayers, hres, hlayers, hrecords, houtputs, rfl⟩]
          exact .ordered hne hsettled

/-- The order of an assembly is that of the walks behind its outputs. -/
theorem settled_of_assemble (hnet : net.WellFormed) {a : Assembly}
    (h : net.assemble outputs = .ok a) : ∃ w, net.Settled outputs w ∧ w.order = a.order := by
  have hout := outcome_assemble hnet outputs
  rw [h] at hout
  generalize hres : (Except.ok a).map Assembly.order = res at hout
  cases hout with
  | @ordered w hne hsettled =>
      rw [Except.map, Except.ok.injEq] at hres
      exact ⟨w, hsettled, hres.symm⟩
  | noOutputs => cases hres
  | unknownNode => cases hres
  | cycle => cases hres

theorem outcome_of_assemble_error (hnet : net.WellFormed) {e : NetworkError}
    (h : net.assemble outputs = .error e) : net.Outcome outputs (.error e) := by
  have hout := outcome_assemble hnet outputs
  rw [h] at hout
  exact hout

/-- Outputs that are layers without cycles behind them can be assembled. -/
theorem exists_assemble_eq_ok (hnet : net.WellFormed) (hne : outputs ≠ [])
    (hspec : ∀ output ∈ outputs, output < net.size ∧ ¬ net.ReachesCycle output) :
    ∃ a, net.assemble outputs = .ok a := by
  cases hres : net.assemble outputs with
  | ok a => exact ⟨a, rfl⟩
  | error e =>
      cases outcome_of_assemble_error hnet hres with
      | noOutputs heq => exact absurd heq hne
      | @unknownNode before after id heq hle hbefore =>
          have hmem : id ∈ outputs := heq ▸ List.mem_append_right before List.mem_cons_self
          exact absurd (hspec id hmem).1 (Nat.not_lt.mpr hle)
      | cycle hbehind =>
          rcases hbehind with ⟨id, -, hcycle, output, hmem, hup⟩
          exact absurd ⟨id, hup, hcycle⟩ (hspec output hmem).2

/-! ## Orders and errors -/

/-- The order of an assembly has no id twice, has the layers upstream of the outputs and no others,
and has every layer strictly after each of its inputs. -/
theorem assemble_order (h : net.Reachable) {a : Assembly} (ha : net.assemble outputs = .ok a) :
    a.order.Nodup ∧ (∀ id, id ∈ a.order ↔ ∃ output ∈ outputs, net.Upstream output id) ∧
      ∀ (i : Nat) (id : LayerId), a.order[i]? = some id →
        ∀ input ∈ net.inputs id, ∃ j < i, a.order[j]? = some input := by
  rcases settled_of_assemble h.wellFormed ha with ⟨w, hsettled, horder⟩
  rw [← horder]
  exact ⟨hsettled.tracks.order_nodup, fun id => hsettled.mem_order_iff, hsettled.tracks.follow⟩

/-- A history that leads to inputs which come later and inputs which are repeated, and to a cycle
through the layers "e" and "f". -/
def tangledHistory : List Edit :=
  [.input { kind := .input (.batched [4]) false false, name := some "x" },
   .add { kind := .flatten, name := some "a" } [0],
   .add { kind := .flatten, name := some "b" } [1],
   .add { kind := .merge .add, name := some "c" } [1, 2, 1],
   .add { kind := .flatten, name := some "d" } [0],
   .add { kind := .flatten, name := some "e" } [3],
   .add { kind := .flatten, name := some "f" } [5],
   .add { kind := .flatten, name := some "g" } [6],
   .rewire 1 [4], .rewire 5 [6]]

/-- The network that the history leads to. -/
def tangled : Network :=
  (Builder.run ⟨{}, {}⟩ tangledHistory).network

theorem reachable_tangled : tangled.Reachable :=
  ⟨{}, tangledHistory, rfl⟩

theorem followInputs_tangled : tangled.FollowInputs [0, 4, 1, 2, 3] := by
  decide

/-- The first five layers have no cycles behind them. -/
theorem output_spec_tangled {id : LayerId} (hid : id ∈ [0, 4, 1, 2, 3]) :
    id < tangled.size ∧ ¬ tangled.ReachesCycle id := by
  refine ⟨?_, followInputs_tangled.not_reachesCycle (by decide) hid⟩
  revert id
  decide

theorem exists_assemble_tangled : ∃ a, tangled.assemble [3, 2, 3] = .ok a := by
  refine exists_assemble_eq_ok reachable_tangled.wellFormed (by decide) fun output hmem => ?_
  refine output_spec_tangled ?_
  revert output
  decide

theorem assemble_order_tangled :
    ∃ a, tangled.assemble [3, 2, 3] = .ok a ∧ a.order.Nodup ∧ 4 ∈ a.order ∧ 7 ∉ a.order ∧
      ∃ i j : Nat, j < i ∧ a.order[i]? = some 1 ∧ a.order[j]? = some 4 := by
  rcases exists_assemble_tangled with ⟨a, ha⟩
  rcases assemble_order reachable_tangled ha with ⟨hnodup, hmem, hbefore⟩
  have h31 : tangled.FedBy 3 1 := by decide
  have h14 : tangled.FedBy 1 4 := by decide
  have hmem1 : 1 ∈ a.order := (hmem 1).mpr ⟨3, by decide, (Upstream.refl _ 3).tail h31⟩
  rcases List.mem_iff_getElem?.mp hmem1 with ⟨i, hi⟩
  rcases hbefore i 1 hi 4 h14 with ⟨j, hj, hj4⟩
  refine ⟨a, ha, hnodup, List.mem_of_getElem? hj4, ?_, i, j, hj, hi, hj4⟩
  intro h7
  rcases (hmem 7).mp h7 with ⟨output, houtput, hup⟩
  have hid : output ∈ [0, 4, 1, 2, 3] := by
    clear hup
    revert output
    decide
  exact absurd (followInputs_tangled.mem_of_upstream hid hup) (by decide)

/-- An assembly always ends, since no walk goes on forever.  It finds that there are no outputs
exactly if there are none; else it succeeds exactly if all outputs are layers without cycles behind
them.  A layer that it finds to depend on itself does so and is upstream of an output; an id that it
finds to be unknown is that of an output, and no output before it has a cycle behind it.  There are
no other errors. -/
theorem assemble_outcomes (h : net.Reachable) (outputs : List LayerId) :
    (WellFounded fun next w : Walk => net.step w = .ok (some next)) ∧
      (net.assemble outputs = .error .noOutputs ↔ outputs = []) ∧
      (outputs ≠ [] → ((∃ a, net.assemble outputs = .ok a) ↔
        ∀ output ∈ outputs, output < net.size ∧ ¬ net.ReachesCycle output)) ∧
      (∀ name, net.assemble outputs = .error (.cycle name) →
        ∃ id layer, net.layer? id = some layer ∧ layer.name = name ∧ net.OnCycle id ∧
          ∃ output ∈ outputs, net.Upstream output id) ∧
      (∀ id, net.assemble outputs = .error (.unknownNode id) →
        ∃ before after, outputs = before ++ id :: after ∧ net.size ≤ id ∧
          ∀ output ∈ before, output < net.size ∧ ¬ net.ReachesCycle output) ∧
      ∀ e, net.assemble outputs = .error e →
        e = .noOutputs ∨ (∃ name, e = .cycle name) ∨ ∃ id, e = .unknownNode id := by
  have hnet := h.wellFormed
  refine ⟨wellFounded_step net, ⟨?_, ?_⟩, fun hne => ⟨?_, ?_⟩, ?_, ?_, ?_⟩
  · intro herror
    cases outcome_of_assemble_error hnet herror with
    | noOutputs heq => exact heq
  · rintro rfl
    rfl
  · rintro ⟨a, ha⟩ output hmem
    rcases settled_of_assemble hnet ha with ⟨w, hsettled, -⟩
    exact hsettled.output_spec hmem
  · exact exists_assemble_eq_ok hnet hne
  · intro name herror
    have hout := outcome_of_assemble_error hnet herror
    generalize hres : NetworkError.cycle name = e at hout
    cases hout with
    | cycle hbehind =>
        cases hres
        rcases hbehind with ⟨id, hlayer, hcycle, hup⟩
        exact ⟨id, _, hlayer, rfl, hcycle, hup⟩
    | noOutputs => cases hres
    | unknownNode => cases hres
  · intro id herror
    cases outcome_of_assemble_error hnet herror with
    | unknownNode heq hle hbefore => exact ⟨_, _, heq, hle, hbefore⟩
  · intro e herror
    cases outcome_of_assemble_error hnet herror with
    | noOutputs => exact Or.inl rfl
    | unknownNode => exact Or.inr (Or.inr ⟨_, rfl⟩)
    | cycle => exact Or.inr (Or.inl ⟨_, rfl⟩)

/-- Behind the last layer there is the cycle; behind the layer "c" there is none, so that only an
unknown id given with it makes the assembly fail. -/
theorem assemble_outcomes_tangled :
    tangled.assemble [] = .error .noOutputs ∧ (∃ a, tangled.assemble [3, 2, 3] = .ok a) ∧
      (∃ name, tangled.assemble [3, 7] = .error (.cycle name)) ∧
      tangled.assemble [3, 9] = .error (.unknownNode 9) := by
  have h56 : tangled.FedBy 5 6 := by decide
  have h65 : tangled.FedBy 6 5 := by decide
  have h76 : tangled.FedBy 7 6 := by decide
  have h7 : tangled.ReachesCycle 7 :=
    ⟨6, (Upstream.refl _ 7).tail h76, (TransGen.single h65).tail h56⟩
  have hspec := fun outputs => assemble_outcomes reachable_tangled outputs
  refine ⟨(hspec []).2.1.mpr rfl, ?_, ?_, ?_⟩
  · refine ((hspec [3, 2, 3]).2.2.1 (by decide)).mpr fun output hmem => output_spec_tangled ?_
    revert output
    decide
  · rcases hspec [3, 7] with ⟨-, hempty, hok, -, hunknown, hall⟩
    cases hres : tangled.assemble [3, 7] with
    | ok a => exact absurd h7 (((hok (by decide)).mp ⟨a, hres⟩) 7 (by decide)).2
    | error e =>
        rcases hall e hres with rfl | ⟨name, rfl⟩ | ⟨id, rfl⟩
        · exact absurd (hempty.mp hres) (by decide)
        · exact ⟨name, rfl⟩
        · rcases hunknown id hres with ⟨before, after, heq, hle, -⟩
          have hmem : id ∈ [3, 7] := heq ▸ List.mem_append_right before List.mem_cons_self
          have hlt : ∀ output ∈ [3, 7], output < tangled.size := by decide
          exact absurd (hlt id hmem) (Nat.not_lt.mpr hle)
  · rcases hspec [3, 9] with ⟨-, hempty, hok, hcycle, hunknown, hall⟩
    cases hres : tangled.assemble [3, 9] with
    | ok a => exact absurd (((hok (by decide)).mp ⟨a, hres⟩) 9 (by decide)).1 (by decide)
    | error e =>
        rcases hall e hres with rfl | ⟨name, rfl⟩ | ⟨id, rfl⟩
        · exact absurd (hempty.mp hres) (by decide)
        · rcases hcycle name hres with ⟨id, layer, -, -, hon, output, hmem, hup⟩
          have hreach : tangled.ReachesCycle output := ⟨id, hup, hon⟩
          rcases List.mem_pair.mp hmem with rfl | rfl
          · exact absurd hreach (output_spec_tangled (by decide)).2
          · exact absurd hreach.lt_size (by decide)
        · rcases hunknown id hres with ⟨before, after, heq, hle, -⟩
          have hmem : id ∈ [3, 9] := heq ▸ List.mem_append_right before List.mem_cons_self
          rcases List.mem_pair.mp hmem with rfl | rfl
          · exact absurd hle (by decide)
          · rfl

end Network
end LayerNet
