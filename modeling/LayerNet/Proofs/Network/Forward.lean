import LayerNet.Proofs.Network.Assembly
import LayerNet.Proofs.Network.Failures

/-!
# Networks in which inputs come first

A layer is put behind its inputs.  As long as nobody replaces the inputs of a layer by later ones,
ids therefore go down along inputs, and no way along inputs leads back to where it started: whatever
outputs of such a network are asked for, they can be assembled.

Main definitions:

- `Network.Forward`: every input comes before the layers that it feeds.
- `Builder.GivesEarlier`: a history that replaces inputs by earlier layers only.

Main results:

- `Forward.not_reachesCycle`: no cycles if inputs come first.
- `Builder.forward_apply_iff`: the edits after which inputs still come first.
- `Builder.forward_run_iff`: the histories in which they always do.
- `assemble_of_givesEarlier`: what such histories lead to can be assembled.
-/

namespace LayerNet

open Relation

namespace Network

variable {net : Network}

/-! ## Ways along inputs -/

/-- Whether every input of a layer comes before it. -/
def Forward (net : Network) : Prop :=
  ∀ id input, net.FedBy id input → input < id

/-- Ids go down along inputs. -/
theorem Forward.lt_of_transGen (h : net.Forward) {id source : LayerId}
    (hup : TransGen net.FedBy id source) : source < id := by
  induction hup with
  | single hfed => exact h _ _ hfed
  | tail _ hfed ih => exact Nat.lt_trans (h _ _ hfed) ih

theorem Forward.not_reachesCycle (h : net.Forward) (id : LayerId) : ¬ net.ReachesCycle id := by
  rintro ⟨source, -, hcycle⟩
  exact Nat.lt_irrefl source (h.lt_of_transGen hcycle)

/-! ## New layers -/

theorem forward_empty : ({} : Network).Forward := by
  intro id input hfed
  exact absurd hfed.lt_size (Nat.not_lt_zero id)

theorem inputs_push (net : Network) (layer : Layer) (id : LayerId) :
    (net.push layer).inputs id = if id = net.size then layer.inputs else net.inputs id := by
  rw [inputs, layer?_push]
  split <;> rfl

/-- A layer that fits in has its inputs among the layers before it. -/
theorem Forward.push (h : net.Forward) {layer : Layer} (hfits : layer.FitsIn net.size) :
    (net.push layer).Forward := by
  intro id input hfed
  rw [FedBy, inputs_push] at hfed
  split at hfed <;> rename_i hid
  · rw [hid]
    exact hfits.inputs_lt input hfed
  · exact h id input hfed

end Network

/-! ## Histories -/

/-- Whether an edit of a builder gives no layer an input that does not come before it.  Inputs that
are refused are not given to a layer. -/
def Edit.GivesEarlier (b : Builder) : Edit → Prop
  | .rewire id inputs => (b.rewire id inputs).1 = .ok () → ∀ input ∈ inputs, input < id
  | _ => True

namespace Builder

variable {b : Builder}

/-- Whether no edit of a history gives a layer an input that does not come before it. -/
def GivesEarlier (b : Builder) : List Edit → Prop
  | [] => True
  | edit :: edits => edit.GivesEarlier b ∧ (b.apply edit).GivesEarlier edits

theorem forward_add (h : b.network.Forward) (spec : LayerSpec) (inputs : List LayerId) :
    (b.add spec inputs).2.network.Forward := by
  rcases add_cases b spec inputs with ⟨e, hadd⟩ | ⟨layer, -, hfits, hadd⟩
  · rw [hadd]
    exact h
  · rw [hadd]
    exact h.push hfits

/-- New inputs come first exactly if they are earlier layers, or are refused. -/
theorem forward_rewire_iff (h : b.network.Forward) (id : LayerId) (inputs : List LayerId) :
    (b.rewire id inputs).2.network.Forward ↔
      ((b.rewire id inputs).1 = .ok () → ∀ input ∈ inputs, input < id) := by
  cases hres : b.rewire id inputs with
  | mk result b' =>
      cases result with
      | error e =>
          rw [rewire_eq_error hres]
          exact iff_of_true h nofun
      | ok =>
          rcases rewire_eq_ok hres with ⟨layer, -, -, -, -, hnew, hold⟩
          have hinputs : b'.network.inputs id = inputs := Network.inputs_of_layer? hnew
          constructor
          · intro hforward _ input hmem
            refine hforward id input ?_
            rwa [Network.FedBy, hinputs]
          · intro hearlier other input hfed
            by_cases hid : other = id
            · subst hid
              rw [Network.FedBy, hinputs] at hfed
              exact hearlier rfl input hfed
            · refine h other input ?_
              rwa [Network.FedBy, Network.inputs, hold other hid] at hfed

/-- Inputs still come first exactly after the edits that give earlier inputs. -/
theorem forward_apply_iff (h : b.network.Forward) (edit : Edit) :
    (b.apply edit).network.Forward ↔ edit.GivesEarlier b := by
  cases edit with
  | add spec inputs => exact iff_of_true (forward_add h spec inputs) trivial
  | input spec => exact iff_of_true (forward_add h spec []) trivial
  | chain input specs =>
      refine iff_of_true ?_ trivial
      exact chain_induction (fun _ spec inputs hb => forward_add hb spec inputs) h input specs
  | rewire id inputs => exact forward_rewire_iff h id inputs
  | share registry => exact iff_of_true h trivial

/-- Inputs come first all along a history exactly if it gives earlier inputs only. -/
theorem forward_run_iff (h : b.network.Forward) (edits : List Edit) :
    (∀ front, front <+: edits → (b.run front).network.Forward) ↔ b.GivesEarlier edits := by
  induction edits generalizing b with
  | nil =>
      refine iff_of_true (fun front hfront => ?_) trivial
      rw [List.prefix_nil.mp hfront]
      exact h
  | cons edit edits ih =>
      constructor
      · intro hall
        have hnext : (b.apply edit).network.Forward :=
          hall [edit] (List.cons_prefix_cons.mpr ⟨rfl, List.nil_prefix⟩)
        refine ⟨(forward_apply_iff h edit).mp hnext, (ih hnext).mp fun front hfront => ?_⟩
        exact hall (edit :: front) (List.cons_prefix_cons.mpr ⟨rfl, hfront⟩)
      · rintro ⟨hedit, hedits⟩ front hfront
        rcases List.prefix_cons_iff.mp hfront with rfl | ⟨later, rfl, hlater⟩
        · exact h
        · exact (ih ((forward_apply_iff h edit).mpr hedit)).mpr hedits later hlater

/-- A history that replaces no inputs gives earlier inputs only. -/
theorem givesEarlier_of_not_rewire {edits : List Edit}
    (h : ∀ id inputs, Edit.rewire id inputs ∉ edits) : b.GivesEarlier edits := by
  induction edits generalizing b with
  | nil => trivial
  | cons edit edits ih =>
      refine ⟨?_, ih fun id inputs hmem => h id inputs (List.mem_cons_of_mem edit hmem)⟩
      cases edit with
      | rewire id inputs => exact absurd List.mem_cons_self (h id inputs)
      | add | input | chain | share => trivial

end Builder

namespace Network

/-- What a history leads to that gives earlier inputs only, and one that replaces no inputs at all
is such a history: all inputs of a layer come before it, and so does everything that is upstream of
it; and whatever outputs are asked for can be assembled, if there are any and all of them are in the
network. -/
theorem assemble_of_givesEarlier (registry : NameRegistry) (edits : List Edit) :
    let start : Builder := ⟨{}, registry⟩
    let net := (start.run edits).network
    ((∀ id inputs, Edit.rewire id inputs ∉ edits) → start.GivesEarlier edits) ∧
      (start.GivesEarlier edits →
        (∀ id layer, net.layer? id = some layer → ∀ input ∈ layer.inputs, input < id) ∧
        (∀ id source, TransGen net.FedBy id source → source < id) ∧
        ∀ outputs, outputs ≠ [] → (∀ output ∈ outputs, output < net.size) →
          ∃ a, net.assemble outputs = .ok a) := by
  intro start net
  refine ⟨Builder.givesEarlier_of_not_rewire, fun hearlier => ?_⟩
  have hforward : net.Forward :=
    (Builder.forward_run_iff forward_empty edits).mpr hearlier edits (List.prefix_refl edits)
  have hnet : net.WellFormed := Builder.wellFormed_run wellFormed_empty edits
  refine ⟨?_, fun _ _ => hforward.lt_of_transGen, ?_⟩
  · intro id layer hlayer input hinput
    refine hforward id input ?_
    rwa [FedBy, inputs_of_layer? hlayer]
  · intro outputs hne hlt
    refine exists_assemble_eq_ok hnet hne fun output hmem => ?_
    exact ⟨hlt output hmem, hforward.not_reachesCycle output⟩

/-- A history with a chain that stops at a name in use, with inputs that are repeated, with inputs
that are replaced by an earlier layer, and with later ones that are refused as they are too many or
unknown. -/
def descendingHistory : List Edit :=
  [.chain { kind := .input (.batched [4]) false false, name := some "x" }
     [{ kind := .flatten }, { kind := .flatten, name := some "x" }],
   .add { kind := .merge .add, name := some "sum" } [1, 0, 1],
   .add { kind := .flatten, name := some "last" } [2],
   .rewire 3 [1], .rewire 1 [2, 3], .rewire 0 [9]]

theorem givesEarlier_descendingHistory : (⟨{}, {}⟩ : Builder).GivesEarlier descendingHistory := by
  refine ⟨trivial, trivial, trivial, fun _ => ?_, nofun, nofun, trivial⟩
  exact List.forall_mem_singleton.mpr (by decide)

theorem assemble_of_givesEarlier_descendingHistory :
    let start : Builder := ⟨{}, {}⟩
    let net := (start.run descendingHistory).network
    start.GivesEarlier (descendingHistory.take 3) ∧ start.GivesEarlier descendingHistory ∧
      net.size = 4 ∧ net.inputs 3 = [1] ∧ (TransGen net.FedBy 3 0 ∧ 0 < 3) ∧
      ∃ a, net.assemble [3, 2, 3] = .ok a := by
  intro start net
  have hsize : net.size = 4 := by decide +kernel
  have hlast : net.inputs 3 = [1] := by decide +kernel
  have hfirst : net.inputs 1 = [0] := by decide +kernel
  have hup : TransGen net.FedBy 3 0 := by
    refine (TransGen.single (b := 1) ?_).tail ?_
    · rw [FedBy, hlast]
      exact List.mem_singleton_self 1
    · rw [FedBy, hfirst]
      exact List.mem_singleton_self 0
  have hplain := (assemble_of_givesEarlier {} (descendingHistory.take 3)).1
  rcases (assemble_of_givesEarlier {} descendingHistory).2 givesEarlier_descendingHistory with
    ⟨-, hbefore, hassemble⟩
  refine ⟨hplain fun id inputs hmem => ?_, givesEarlier_descendingHistory, hsize, hlast,
    ⟨hup, hbefore 3 0 hup⟩, hassemble [3, 2, 3] (List.cons_ne_nil _ _) ?_⟩
  · simp [descendingHistory] at hmem
  · change ∀ output ∈ [3, 2, 3], output < net.size
    rw [hsize]
    decide

end Network
end LayerNet
