import LayerNet.Proofs.Layer.Sizes
import LayerNet.Proofs.Network.Assembly

/-!
# Sizes in the records of a network

Every layer of a network was checked when it was added, so that its record, wherever it is written,
has sizes where sizes are wanted.

Main result:

- `Network.sizes_of_reachable`: sizes, target shapes and padding in the record of a layer.
-/

namespace LayerNet
namespace Network

variable {net : Network} {id : LayerId} {layer : Layer}

/-- The record of a layer can be written, and has the configuration of the layer. -/
theorem WellFormed.exists_record_of_layer? (h : net.WellFormed)
    (hlayer : net.layer? id = some layer) :
    ∃ record, net.record id = .ok record ∧ record.config = layer.config := by
  rcases h.exists_record_eq_ok (lt_size_of_layer? hlayer) with ⟨record, hrecord⟩
  rcases record_eq_ok_iff.mp hrecord with ⟨other, feeding, hother, -, rfl⟩
  cases hlayer.symm.trans hother
  exact ⟨_, hrecord, rfl⟩

/-- The record of a layer that is not of the user's own can be written, and it is the one that
stands in every assembly with this layer.  In its configuration every entry that holds sizes is a
positive number or a list of positive numbers, a target shape is not empty, and padding is a known
one.  The strides of a pooling layer that is given none are its window. -/
theorem sizes_of_reachable (h : net.Reachable) (hlayer : net.layer? id = some layer)
    (hown : layer.kind.ownClass? = none) :
    ∃ record, net.record id = .ok record ∧
      (∀ outputs a (i : Nat), net.assemble outputs = .ok a → a.order[i]? = some id →
        a.definition.layers[i]? = some record) ∧
      (∀ key value, (key, value) ∈ record.config →
        (key ∈ LayerKind.sizeKeys → value.IsSizes) ∧ (key = "target_shape" → value ≠ .arr []) ∧
          (key = "padding" → ∃ padding ∈ LayerKind.paddings, value = .str padding)) ∧
      ∀ window, layer.kind.unstridedWindow? = some window →
        Table.find? "strides" record.config = some (LayerKind.natList window) ∧
          Table.find? "pool_size" record.config = some (LayerKind.natList window) := by
  have hfault : layer.kind.fault? = none := (h.wellFormed.fits_of_layer? hlayer).fault?_eq_none
  rcases h.wellFormed.exists_record_of_layer? hlayer with ⟨record, hrecord, hconfig⟩
  refine ⟨record, hrecord, ?_, ?_, ?_⟩
  · intro outputs a i ha hi
    rcases exists_record_of_assemble ha hi with ⟨other, hother, hrecord'⟩
    cases hrecord.symm.trans hrecord'
    exact hother
  · intro key value hmem
    rw [hconfig] at hmem
    have hkeeps : LayerKind.KeepsKey key value := Layer.keepsKey_config hown hfault hmem
    exact ⟨hkeeps.sizes, hkeeps.target, hkeeps.padding⟩
  · intro window hwindow
    rw [hconfig]
    exact Layer.find?_config_of_unstridedWindow? hwindow

/-- A history with a pooling layer that is given no strides. -/
def pooledHistory : List Edit :=
  [.input { kind := .input (.batched [8, 9, 1]) false false },
   .add { kind := .pooling2D .average (2, 3) none "causal", trainable := false } [0]]

/-- The network that the history leads to. -/
def pooled : Network :=
  (Builder.run ⟨{}, {}⟩ pooledHistory).network

/-- The pooling layer moves by its window, and nothing else stands under its strides. -/
theorem sizes_pooled :
    ∃ record, pooled.record 1 = .ok record ∧
      Table.find? "strides" record.config = some (LayerKind.natList [2, 3]) ∧
      (∀ value, ("strides", value) ∈ record.config → value.IsSizes) ∧
      ∀ value, ("padding", value) ∈ record.config → ∃ padding ∈ LayerKind.paddings,
        value = .str padding := by
  have hreachable : pooled.Reachable := ⟨{}, pooledHistory, rfl⟩
  rcases @sizes_of_reachable pooled 1 _ hreachable rfl rfl with
    ⟨record, hrecord, -, hkeeps, hwindow⟩
  refine ⟨record, hrecord, (hwindow [2, 3] rfl).1, ?_, ?_⟩
  · exact fun value hmem => (hkeeps "strides" value hmem).1 (by decide)
  · exact fun value hmem => (hkeeps "padding" value hmem).2.2 rfl

end Network
end LayerNet
